import AgentRoom.Plan.NormalForm

/-!
# What the digest of a definition says

The members of every object of a definition stand in the order of their keys, so the tree the
server writes is the definition's own, field by field, and equal texts come from equal normal
forms. The numbers within are safe integers by the schema, so their texts tell them apart.
-/

namespace AgentRoom.Plan

open Contracts (Doubles JsValue unitsLe maxSafeInteger serverTree canonicalValue utf8
  integerDoubles)
open JsonText (Tree Numeral)

/-! ## Members in order -/

/-- The keys of the objects within a definition, kind by kind. -/
def objectKeys : List (List String) := [
  ["itemKey", "statement"],
  ["questionKey", "required", "text"],
  ["artifactId", "evidenceRefId", "kind"],
  ["discussionId", "evidenceRefId", "kind"],
  ["evidenceRefId", "kind", "memoryId"],
  ["evidenceRefId", "kind", "messageId"],
  ["evidenceRefId", "kind", "resultId"],
  ["evidenceRefId", "kind", "runId", "sequence"],
  ["evidenceRefId", "revision"],
  ["items", "sourceRevisions", "sources", "summary", "unresolvedQuestions"],
  ["criterionKey", "description", "ordinal", "required"],
  ["nextActionKey", "resultId"],
  ["criteria", "goal", "mode", "ownerMemberId", "title"],
  ["criteria", "goal", "mode", "ownerMemberId", "sourceAction", "title"],
  ["criteriaRevision", "definitionRevision", "expectedTaskRevision", "mode", "taskId"],
  ["baseCommit", "bindingId", "grantId", "grantRevision", "repositoryId", "runtimeProfileDigest",
   "runtimeProfileId"],
  ["access", "allowedPaths", "forbiddenPaths", "requirePreventivePathEnforcement"],
  ["maxExecutionDurationSeconds", "maxRunAttempts"],
  ["digest", "profileId", "required", "revision"],
  ["kind", "required", "slotKey"],
  ["agentId", "budget", "inputs", "kind", "nodeKey", "outputs", "repository", "required", "scope",
   "task", "verificationProfiles"],
  ["inputSlot", "outputSlot"],
  ["bindings", "edgeKey", "fromNodeKey", "gate", "toNodeKey"],
  ["artifactId", "artifactRevision", "contentDigest", "inputSlot", "kind", "nodeKey",
   "sourceResultId", "sourceTaskId"],
  ["expectedCommit", "repositoryId", "targetRef"],
  ["budget", "integration", "integrationTargets", "maxConcurrency",
   "requireHumanIntegrationApproval"],
  ["decision", "edges", "externalInputs", "nodes", "policy", "rootTaskId", "schemaVersion",
   "title"]]

theorem objectKeys_inOrder :
    ∀ keys ∈ objectKeys, (keys.map unitsOf).Pairwise unitsLe := by decide +kernel

section Json

variable (D : Doubles)

/-- Every object's members are in the order of their keys. -/
def InOrder (v : JsValue D) : Prop := v.sorted unitsLe = v

variable {D}

theorem inOrder_object {ms : List (String × JsValue D)} (hms : ms.map (·.1) ∈ objectKeys)
    (hvalues : ∀ m ∈ ms, InOrder D m.2) : InOrder D (jObject D ms) := by
  have hkeys := objectKeys_inOrder _ hms
  have hsame : (ms.map fun m => (unitsOf m.1, m.2)).map (fun m => (m.1, m.2.sorted unitsLe)) =
      ms.map fun m => (unitsOf m.1, m.2) := by
    rw [List.map_map]
    refine List.map_congr_left fun m hm => ?_
    rw [Function.comp_apply, hvalues m hm]
  have hpairs : (ms.map fun m => (unitsOf m.1, m.2)).Pairwise fun a b => unitsLe a.1 b.1 := by
    rw [List.map_map, List.pairwise_map] at hkeys
    rw [List.pairwise_map]
    exact hkeys
  unfold InOrder jObject
  rw [JsonValue.sorted_object, hsame, hpairs.insertionSort_eq]

@[simp] theorem inOrder_text (text : String) : InOrder D (jText D text) := rfl

@[simp] theorem inOrder_nat (n : Nat) : InOrder D (jNat D n) := rfl

@[simp] theorem inOrder_bool (b : Bool) : InOrder D (.bool b) := rfl

@[simp] theorem inOrder_map {α : Type} {f : α → JsValue D} {xs : List α}
    (h : ∀ x, InOrder D (f x)) : InOrder D (.array (xs.map f)) := by
  unfold InOrder
  rw [JsonValue.sorted_array, List.map_map]
  exact congrArg _ (List.map_congr_left fun x _ => h x)

@[simp] theorem DecisionItem.inOrder (i : DecisionItem) : InOrder D (i.toJson D) :=
  inOrder_object (by simp [objectKeys]) (by simp)

@[simp] theorem DecisionQuestion.inOrder (q : DecisionQuestion) : InOrder D (q.toJson D) :=
  inOrder_object (by simp [objectKeys]) (by simp)

@[simp] theorem Source.inOrder (s : Source) : InOrder D (s.toJson D) := by
  obtain ⟨evidenceRefId, pin⟩ := s
  cases pin <;> exact inOrder_object (by simp [objectKeys, SourcePin.members])
    (by simp [SourcePin.members])

@[simp] theorem SourceRevision.inOrder (r : SourceRevision) : InOrder D (r.toJson D) :=
  inOrder_object (by simp [objectKeys]) (by simp)

@[simp] theorem DecisionContent.inOrder (d : DecisionContent) : InOrder D (d.toJson D) :=
  inOrder_object (by simp [objectKeys]) (by simp)

@[simp] theorem Criterion.inOrder (c : Criterion) : InOrder D (c.toJson D) :=
  inOrder_object (by simp [objectKeys]) (by simp)

@[simp] theorem SourceAction.inOrder (a : SourceAction) : InOrder D (a.toJson D) :=
  inOrder_object (by simp [objectKeys]) (by simp)

@[simp] theorem NodeTask.inOrder (t : NodeTask) : InOrder D (t.toJson D) := by
  rcases t with ⟨title, goal, ownerMemberId, criteria, _ | action⟩ | task
  all_goals exact inOrder_object (by simp [objectKeys]) (by simp)

@[simp] theorem RepositoryInput.inOrder (r : RepositoryInput) : InOrder D (r.toJson D) :=
  inOrder_object (by simp [objectKeys]) (by simp)

@[simp] theorem ScopePolicy.inOrder (s : ScopePolicy) : InOrder D (s.toJson D) :=
  inOrder_object (by simp [objectKeys]) (by simp)

@[simp] theorem BudgetPolicy.inOrder (b : BudgetPolicy) : InOrder D (b.toJson D) :=
  inOrder_object (by simp [objectKeys]) (by simp)

@[simp] theorem VerificationProfile.inOrder (p : VerificationProfile) : InOrder D (p.toJson D) :=
  inOrder_object (by simp [objectKeys]) (by simp)

@[simp] theorem ArtifactSlot.inOrder (s : ArtifactSlot) : InOrder D (s.toJson D) :=
  inOrder_object (by simp [objectKeys]) (by simp)

@[simp] theorem PlanNode.inOrder (n : PlanNode) : InOrder D (n.toJson D) :=
  inOrder_object (by simp [objectKeys]) (by simp)

@[simp] theorem EdgeBinding.inOrder (b : EdgeBinding) : InOrder D (b.toJson D) :=
  inOrder_object (by simp [objectKeys]) (by simp)

@[simp] theorem PlanEdge.inOrder (e : PlanEdge) : InOrder D (e.toJson D) :=
  inOrder_object (by simp [objectKeys]) (by simp)

@[simp] theorem ExternalInput.inOrder (i : ExternalInput) : InOrder D (i.toJson D) :=
  inOrder_object (by simp [objectKeys]) (by simp)

@[simp] theorem IntegrationTarget.inOrder (t : IntegrationTarget) : InOrder D (t.toJson D) :=
  inOrder_object (by simp [objectKeys]) (by simp)

@[simp] theorem PlanPolicy.inOrder (p : PlanPolicy) : InOrder D (p.toJson D) :=
  inOrder_object (by simp [objectKeys]) (by simp)

/-- **A definition's members are in order.** -/
theorem PlanDefinition.inOrder (d : PlanDefinition) : InOrder D (d.toJson D) :=
  inOrder_object (by simp [objectKeys]) (by simp)

/-! ## Trees of fields -/

/-- The tree of a value, its members where they stand. -/
def tree (v : JsValue D) : Tree := v.map D.text id

theorem serverTree_inOrder {v : JsValue D} (h : InOrder D v) : serverTree D v = tree v := by
  unfold serverTree tree
  rw [← JsonValue.map_sorted _ id unitsLe unitsLe fun _ _ => Iff.rfl, h]

@[simp] theorem tree_object_inj {ms ms' : List (String × JsValue D)} :
    tree (jObject D ms) = tree (jObject D ms') ↔
      (ms.map fun m => (m.1, tree m.2)) = ms'.map fun m => (m.1, tree m.2) := by
  have hobject : ∀ ms : List (String × JsValue D), tree (jObject D ms) =
      .object ((ms.map fun m => (m.1, tree m.2)).map fun m => (unitsOf m.1, m.2)) := by
    intro ms
    unfold tree jObject
    rw [JsonValue.map_object, List.map_map, List.map_map]
    rfl
  have hinj : Function.Injective fun m : String × Tree => (unitsOf m.1, m.2) := by
    rintro ⟨key, v⟩ ⟨key', v'⟩ h
    rw [Prod.mk.injEq] at h
    exact Prod.ext (unitsOf_injective h.1) h.2
  rw [hobject, hobject, JsonValue.object.injEq, (List.map_injective_iff.mpr hinj).eq_iff]

@[simp] theorem tree_text_inj {a b : String} : tree (jText D a) = tree (jText D b) ↔ a = b := by
  constructor
  · intro h
    exact unitsOf_injective (JsonValue.string.inj h)
  · rintro rfl
    rfl

@[simp] theorem tree_bool_inj {a b : Bool} :
    tree (.bool a : JsValue D) = tree (.bool b : JsValue D) ↔ a = b := by
  constructor
  · intro h
    exact JsonValue.bool.inj h
  · rintro rfl
    rfl

/-- **Safe integers have texts of their own.** -/
theorem nat_of_tree {m n : Nat} (hm : m ≤ maxSafeInteger) (hn : n ≤ maxSafeInteger)
    (h : tree (jNat D m) = tree (jNat D n)) : m = n := by
  have htext : ∀ k : Nat, k ≤ maxSafeInteger → D.text (D.ofRat k) = Numeral.ofInt k := by
    intro k hk
    have hvalue := D.ofRat_integer k (by simpa using hk)
    rw [Int.cast_natCast] at hvalue
    exact D.text_integer _ k (by simpa using hk) (by rw [hvalue]; rfl)
  have hnumerals : Numeral.ofInt m = Numeral.ofInt n := by
    rw [← htext m hm, ← htext n hn]
    exact JsonValue.number.inj h
  have hvalues := congrArg Numeral.value hnumerals
  rw [JsonText.ofInt_value, JsonText.ofInt_value] at hvalues
  exact_mod_cast hvalues

theorem list_of_tree {α : Type} {f : α → JsValue D} {xs ys : List α}
    (hf : ∀ x ∈ xs, ∀ y ∈ ys, tree (f x) = tree (f y) → x = y)
    (h : tree (.array (xs.map f)) = tree (.array (ys.map f))) : xs = ys := by
  unfold tree at h
  rw [JsonValue.map_array, JsonValue.map_array, JsonValue.array.injEq, List.map_map,
    List.map_map] at h
  induction xs generalizing ys with
  | nil =>
    rcases ys with _ | ⟨y, ys⟩
    · rfl
    · cases h
  | cons x xs ih =>
    rcases ys with _ | ⟨y, ys⟩
    · cases h
    · rw [List.map_cons, List.map_cons, List.cons.injEq] at h
      have hhead := hf x List.mem_cons_self y List.mem_cons_self h.1
      have htail := ih (fun x' hx' y' hy' =>
        hf x' (List.mem_cons_of_mem _ hx') y' (List.mem_cons_of_mem _ hy')) h.2
      rw [hhead, htail]

theorem texts_of_tree {xs ys : List String}
    (h : tree (.array (xs.map (jText D))) = tree (.array (ys.map (jText D)))) : xs = ys :=
  list_of_tree (fun _ _ _ _ => tree_text_inj.mp) h

theorem safe_of_within {minimum maximum n : Nat} (h : natWithin minimum maximum n = true)
    (hmaximum : maximum ≤ maxSafeInteger) : n ≤ maxSafeInteger := by
  simp only [natWithin, Bool.and_eq_true, decide_eq_true_eq] at h
  omega

theorem safe_of_revision {n : Nat} (h : revisionWithin n = true) : n ≤ maxSafeInteger :=
  safe_of_within h (Nat.le_refl _)

/-! ## Each record is read off its tree -/

theorem DecisionItem.of_tree {a b : DecisionItem} (h : tree (a.toJson D) = tree (b.toJson D)) :
    a = b := by
  cases a
  cases b
  simp [DecisionItem.toJson] at h
  simp [h]

theorem DecisionQuestion.of_tree {a b : DecisionQuestion}
    (h : tree (a.toJson D) = tree (b.toJson D)) : a = b := by
  cases a
  cases b
  simp [DecisionQuestion.toJson] at h
  simp [h]

theorem Source.of_tree {a b : Source} (ha : a.schema = true) (hb : b.schema = true)
    (h : tree (a.toJson D) = tree (b.toJson D)) : a = b := by
  obtain ⟨ref, pin⟩ := a
  obtain ⟨ref', pin'⟩ := b
  cases pin <;> cases pin' <;> simp [Source.toJson, SourcePin.members] at h <;> try simp [h]
  simp only [Source.schema, SourcePin.schema, Bool.and_eq_true] at ha hb
  exact nat_of_tree (safe_of_revision ha.2.2) (safe_of_revision hb.2.2) h.2.2

theorem SourceRevision.of_tree {a b : SourceRevision} (ha : a.schema = true) (hb : b.schema = true)
    (h : tree (a.toJson D) = tree (b.toJson D)) : a = b := by
  cases a
  cases b
  simp only [SourceRevision.schema, Bool.and_eq_true] at ha hb
  simp [SourceRevision.toJson] at h
  simp [h.1, nat_of_tree (safe_of_revision ha.2) (safe_of_revision hb.2) h.2]

theorem list_of_tree_within {α : Type} {f : α → JsValue D} {item : α → Bool}
    {minimum maximum : Nat} {xs ys : List α}
    (hf : ∀ x y, item x = true → item y = true → tree (f x) = tree (f y) → x = y)
    (hx : itemsWithin minimum maximum item xs = true)
    (hy : itemsWithin minimum maximum item ys = true)
    (h : tree (.array (xs.map f)) = tree (.array (ys.map f))) : xs = ys := by
  simp only [itemsWithin, Bool.and_eq_true, List.all_eq_true] at hx hy
  exact list_of_tree (fun x hin y hin' => hf x y (hx.2 x hin) (hy.2 y hin')) h

theorem DecisionContent.of_tree {a b : DecisionContent} (ha : a.schema = true)
    (hb : b.schema = true) (h : tree (a.toJson D) = tree (b.toJson D)) : a = b := by
  cases a
  cases b
  simp only [DecisionContent.schema, Bool.and_eq_true] at ha hb
  simp [DecisionContent.toJson] at h
  obtain ⟨hitems, hrevisions, hsources, hsummary, hquestions⟩ := h
  have h₁ := list_of_tree (fun _ _ _ _ => DecisionItem.of_tree) hitems
  have h₂ := list_of_tree_within (fun _ _ => SourceRevision.of_tree) ha.2 hb.2 hrevisions
  have h₃ := list_of_tree_within (fun _ _ => Source.of_tree) ha.1.2 hb.1.2 hsources
  have h₄ := list_of_tree (fun _ _ _ _ => DecisionQuestion.of_tree) hquestions
  rw [h₁, h₂, h₃, h₄, hsummary]

theorem Criterion.of_tree {a b : Criterion} (ha : a.schema = true) (hb : b.schema = true)
    (h : tree (a.toJson D) = tree (b.toJson D)) : a = b := by
  cases a
  cases b
  simp only [Criterion.schema, Bool.and_eq_true] at ha hb
  simp [Criterion.toJson] at h
  obtain ⟨hkey, hdescription, hordinal, hrequired⟩ := h
  have hsame := nat_of_tree (safe_of_within ha.2 (by decide)) (safe_of_within hb.2 (by decide))
    hordinal
  rw [hkey, hdescription, hsame, hrequired]

theorem SourceAction.of_tree {a b : SourceAction} (h : tree (a.toJson D) = tree (b.toJson D)) :
    a = b := by
  cases a
  cases b
  simp [SourceAction.toJson] at h
  simp [h]

theorem NewTask.of_tree {a b : NewTask} (ha : (NodeTask.new a).schema = true)
    (hb : (NodeTask.new b).schema = true)
    (h : tree ((NodeTask.new a).toJson D) = tree ((NodeTask.new b).toJson D)) : a = b := by
  obtain ⟨title, goal, owner, criteria, action⟩ := a
  obtain ⟨title', goal', owner', criteria', action'⟩ := b
  simp only [NodeTask.schema, Bool.and_eq_true] at ha hb
  have hcriteria := @list_of_tree_within D _ _ _ _ _ criteria criteria'
    (fun _ _ => Criterion.of_tree) ha.1.2 hb.1.2
  rcases action with _ | action <;> rcases action' with _ | action' <;>
    simp [NodeTask.toJson] at h
  · obtain ⟨hlist, hgoal, howner, htitle⟩ := h
    rw [hcriteria hlist, hgoal, howner, htitle]
  · obtain ⟨hlist, hgoal, howner, haction, htitle⟩ := h
    rw [hcriteria hlist, hgoal, howner, SourceAction.of_tree haction, htitle]

theorem ExistingTask.of_tree {a b : ExistingTask} (ha : (NodeTask.existing a).schema = true)
    (hb : (NodeTask.existing b).schema = true)
    (h : tree ((NodeTask.existing a).toJson D) = tree ((NodeTask.existing b).toJson D)) :
    a = b := by
  cases a
  cases b
  simp only [NodeTask.schema, Bool.and_eq_true] at ha hb
  simp [NodeTask.toJson] at h
  obtain ⟨hcriteria, hdefinition, htask, hid⟩ := h
  have h₁ := nat_of_tree (safe_of_revision ha.2) (safe_of_revision hb.2) hcriteria
  have h₂ := nat_of_tree (safe_of_revision ha.1.2) (safe_of_revision hb.1.2) hdefinition
  have h₃ := nat_of_tree (safe_of_revision ha.1.1.2) (safe_of_revision hb.1.1.2) htask
  rw [h₁, h₂, h₃, hid]

theorem NodeTask.of_tree {a b : NodeTask} (ha : a.schema = true) (hb : b.schema = true)
    (h : tree (a.toJson D) = tree (b.toJson D)) : a = b := by
  cases a with
  | new a =>
    cases b with
    | new b => rw [NewTask.of_tree ha hb h]
    | existing b => simp [NodeTask.toJson] at h
  | existing a =>
    cases b with
    | new b => simp [NodeTask.toJson] at h
    | existing b => rw [ExistingTask.of_tree ha hb h]

theorem RepositoryInput.of_tree {a b : RepositoryInput} (ha : a.schema = true)
    (hb : b.schema = true) (h : tree (a.toJson D) = tree (b.toJson D)) : a = b := by
  cases a
  cases b
  simp only [RepositoryInput.schema, Bool.and_eq_true] at ha hb
  simp [RepositoryInput.toJson] at h
  obtain ⟨hcommit, hbinding, hgrant, hrevision, hrepository, hdigest, hprofile⟩ := h
  have hsame := nat_of_tree (safe_of_revision ha.1.1.2) (safe_of_revision hb.1.1.2) hrevision
  rw [hcommit, hbinding, hgrant, hsame, hrepository, hdigest, hprofile]

theorem Access.text_injective : Function.Injective Access.text := by
  intro a b h
  cases a <;> cases b <;> simp_all [Access.text]

theorem ArtifactKind.text_injective : Function.Injective ArtifactKind.text := by
  intro a b h
  cases a <;> cases b <;> simp_all [ArtifactKind.text]

theorem NodeKind.text_injective : Function.Injective NodeKind.text := by
  intro a b h
  cases a <;> cases b <;> simp_all [NodeKind.text]

theorem Gate.text_injective : Function.Injective Gate.text := by
  intro a b h
  cases a <;> cases b <;> simp_all [Gate.text]

theorem Integration.text_injective : Function.Injective Integration.text := by
  intro a b h
  cases a <;> cases b <;> simp_all [Integration.text]

theorem ScopePolicy.of_tree {a b : ScopePolicy} (h : tree (a.toJson D) = tree (b.toJson D)) :
    a = b := by
  cases a
  cases b
  simp [ScopePolicy.toJson] at h
  obtain ⟨haccess, hallowed, hforbidden, henforcement⟩ := h
  rw [Access.text_injective haccess, texts_of_tree hallowed, texts_of_tree hforbidden,
    henforcement]

theorem BudgetPolicy.of_tree {a b : BudgetPolicy} (ha : a.schema = true) (hb : b.schema = true)
    (h : tree (a.toJson D) = tree (b.toJson D)) : a = b := by
  cases a
  cases b
  simp only [BudgetPolicy.schema, Bool.and_eq_true] at ha hb
  simp [BudgetPolicy.toJson] at h
  have h₁ := nat_of_tree (safe_of_within ha.2 (by decide)) (safe_of_within hb.2 (by decide)) h.1
  have h₂ := nat_of_tree (safe_of_within ha.1 (by decide)) (safe_of_within hb.1 (by decide)) h.2
  rw [h₁, h₂]

theorem VerificationProfile.of_tree {a b : VerificationProfile} (ha : a.schema = true)
    (hb : b.schema = true) (h : tree (a.toJson D) = tree (b.toJson D)) : a = b := by
  cases a
  cases b
  simp only [VerificationProfile.schema, Bool.and_eq_true] at ha hb
  simp [VerificationProfile.toJson] at h
  obtain ⟨hdigest, hprofile, hrequired, hrevision⟩ := h
  have hsame := nat_of_tree (safe_of_revision ha.1.2) (safe_of_revision hb.1.2) hrevision
  rw [hdigest, hprofile, hrequired, hsame]

theorem ArtifactSlot.of_tree {a b : ArtifactSlot} (h : tree (a.toJson D) = tree (b.toJson D)) :
    a = b := by
  cases a
  cases b
  simp [ArtifactSlot.toJson] at h
  obtain ⟨hkind, hrequired, hkey⟩ := h
  rw [ArtifactKind.text_injective hkind, hrequired, hkey]

theorem PlanNode.of_tree {a b : PlanNode} (ha : a.schema = true) (hb : b.schema = true)
    (h : tree (a.toJson D) = tree (b.toJson D)) : a = b := by
  cases a
  cases b
  simp only [PlanNode.schema, Bool.and_eq_true] at ha hb
  simp [PlanNode.toJson] at h
  obtain ⟨hagent, hbudget, hinputs, hkind, hkey, houtputs, hrepository, hrequired, hscope, htask,
    hprofiles⟩ := h
  obtain ⟨⟨⟨⟨⟨⟨⟨⟨-, htaskA⟩, -⟩, hrepositoryA⟩, -⟩, hbudgetA⟩, hprofilesA⟩, -⟩, -⟩ := ha
  obtain ⟨⟨⟨⟨⟨⟨⟨⟨-, htaskB⟩, -⟩, hrepositoryB⟩, -⟩, hbudgetB⟩, hprofilesB⟩, -⟩, -⟩ := hb
  have h₁ := list_of_tree (fun _ _ _ _ => ArtifactSlot.of_tree) hinputs
  have h₂ := list_of_tree (fun _ _ _ _ => ArtifactSlot.of_tree) houtputs
  have h₃ := list_of_tree_within (fun _ _ => VerificationProfile.of_tree) hprofilesA hprofilesB
    hprofiles
  rw [hagent, BudgetPolicy.of_tree hbudgetA hbudgetB hbudget, h₁,
    NodeKind.text_injective hkind, hkey, h₂,
    RepositoryInput.of_tree hrepositoryA hrepositoryB hrepository, hrequired,
    ScopePolicy.of_tree hscope, NodeTask.of_tree htaskA htaskB htask, h₃]

theorem EdgeBinding.of_tree {a b : EdgeBinding} (h : tree (a.toJson D) = tree (b.toJson D)) :
    a = b := by
  cases a
  cases b
  simp [EdgeBinding.toJson] at h
  simp [h]

theorem PlanEdge.of_tree {a b : PlanEdge} (h : tree (a.toJson D) = tree (b.toJson D)) :
    a = b := by
  cases a
  cases b
  simp [PlanEdge.toJson] at h
  obtain ⟨hbindings, hkey, hfrom, hgate, hto⟩ := h
  rw [list_of_tree (fun _ _ _ _ => EdgeBinding.of_tree) hbindings, hkey, hfrom,
    Gate.text_injective hgate, hto]

theorem ExternalInput.of_tree {a b : ExternalInput} (ha : a.schema = true) (hb : b.schema = true)
    (h : tree (a.toJson D) = tree (b.toJson D)) : a = b := by
  cases a
  cases b
  simp only [ExternalInput.schema, Bool.and_eq_true] at ha hb
  simp [ExternalInput.toJson] at h
  obtain ⟨hartifact, hrevision, hdigest, hslot, hkind, hnode, hresult, htask⟩ := h
  have hsame := nat_of_tree (safe_of_revision ha.1.2) (safe_of_revision hb.1.2) hrevision
  rw [hartifact, hsame, hdigest, hslot, ArtifactKind.text_injective hkind, hnode, hresult, htask]

theorem IntegrationTarget.of_tree {a b : IntegrationTarget}
    (h : tree (a.toJson D) = tree (b.toJson D)) : a = b := by
  cases a
  cases b
  simp [IntegrationTarget.toJson] at h
  simp [h]

theorem PlanPolicy.of_tree {a b : PlanPolicy} (ha : a.schema = true) (hb : b.schema = true)
    (h : tree (a.toJson D) = tree (b.toJson D)) : a = b := by
  cases a
  cases b
  simp only [PlanPolicy.schema, Bool.and_eq_true] at ha hb
  simp [PlanPolicy.toJson] at h
  obtain ⟨hbudget, hintegration, htargets, hconcurrency, happroval⟩ := h
  have hsame := nat_of_tree (safe_of_within ha.1.1.1 (by decide))
    (safe_of_within hb.1.1.1 (by decide)) hconcurrency
  rw [BudgetPolicy.of_tree ha.1.1.2 hb.1.1.2 hbudget, Integration.text_injective hintegration,
    list_of_tree (fun _ _ _ _ => IntegrationTarget.of_tree) htargets, hsame, happroval]

/-- **A definition is read off its tree.** -/
theorem PlanDefinition.of_tree {a b : PlanDefinition} (ha : a.schema = true) (hb : b.schema = true)
    (h : tree (a.toJson D) = tree (b.toJson D)) : a = b := by
  cases a
  cases b
  simp only [PlanDefinition.schema, Bool.and_eq_true] at ha hb
  simp [PlanDefinition.toJson] at h
  obtain ⟨hdecision, hedges, hexternals, hnodes, hpolicy, hroot, hversion, htitle⟩ := h
  obtain ⟨⟨⟨⟨⟨-, hdecisionA⟩, hnodesA⟩, -⟩, hexternalsA⟩, hpolicyA⟩ := ha
  obtain ⟨⟨⟨⟨⟨-, hdecisionB⟩, hnodesB⟩, -⟩, hexternalsB⟩, hpolicyB⟩ := hb
  have h₁ := list_of_tree (fun _ _ _ _ => PlanEdge.of_tree) hedges
  have h₂ := list_of_tree_within (fun _ _ => ExternalInput.of_tree) hexternalsA hexternalsB
    hexternals
  have h₃ := list_of_tree_within (fun _ _ => PlanNode.of_tree) hnodesA hnodesB hnodes
  rw [DecisionContent.of_tree hdecisionA hdecisionB hdecision, h₁, h₂, h₃,
    PlanPolicy.of_tree hpolicyA hpolicyB hpolicy, hroot, hversion, htitle]

end Json

/-! ## Digests -/

theorem utf8_injective : Function.Injective utf8 := by
  intro a b h
  refine String.ofList_injective ?_
  have hbytes : a.utf8Encode = b.utf8Encode := by
    unfold List.utf8Encode
    exact congrArg _ h
  exact String.toByteArray_inj.mp (by simpa using hbytes)

/-- **Equal texts come from equal definitions.** -/
theorem definition_of_text {D : Doubles} {a b : PlanDefinition} (ha : a.schema = true)
    (hb : b.schema = true)
    (h : canonicalValue D (a.toJson D) = canonicalValue D (b.toJson D)) : a = b := by
  rw [Contracts.canonicalValue_eq, Contracts.canonicalValue_eq] at h
  have htrees := Contracts.serverTree_eq_of_write h
  rw [serverTree_inOrder a.inOrder, serverTree_inOrder b.inOrder] at htrees
  exact PlanDefinition.of_tree ha hb htrees

/-- **The normal form of an accepted definition.** The validator returns the same for every order
of the lists, returns a normal form unchanged, and gives equal digests to definitions that are
the same up to order only, unless the hash of their two texts collides. -/
theorem accepted_normal_form (D : Doubles) (sha256 : List UInt8 → String) (a : PlanDefinition)
    (r : Validated) (h : validateExecutionPlanDefinition D sha256 a = .ok r) :
    (∀ b, a.Same b → validateExecutionPlanDefinition D sha256 b = .ok r) ∧
    validateExecutionPlanDefinition D sha256 r.definition = .ok r ∧
    ∀ b s, validateExecutionPlanDefinition D sha256 b = .ok s →
      (sha256 (utf8 (canonicalValue D (r.definition.toJson D))) =
          sha256 (utf8 (canonicalValue D (s.definition.toJson D))) →
        utf8 (canonicalValue D (r.definition.toJson D)) =
          utf8 (canonicalValue D (s.definition.toJson D))) →
      r.digest = s.digest → a.Same b := by
  refine ⟨fun b hsame => validate_same hsame h, ?_, fun b s hs hcollision hdigest => ?_⟩
  · obtain ⟨-, -, rfl⟩ := validate_ok.mp h
    exact validate_same (normalizeDefinition_same a) h
  · obtain ⟨hok, -, rfl⟩ := validate_ok.mp h
    obtain ⟨hok', -, rfl⟩ := validate_ok.mp hs
    have hsameA := normalizeDefinition_same a
    have hsameB := normalizeDefinition_same b
    have htexts := utf8_injective (hcollision hdigest)
    have hforms : normalizeDefinition a = normalizeDefinition b :=
      definition_of_text (hsameA.schema ▸ hok.schema) (hsameB.schema ▸ hok'.schema) htexts
    rw [← hforms] at hsameB
    exact hsameA.trans hsameB.symm

/-- The sample with its nodes in the other order is validated to the same. -/
theorem samplePlan_normal_form :
    ∃ r, validateExecutionPlanDefinition integerDoubles byteCount samplePlan = .ok r ∧
      validateExecutionPlanDefinition integerDoubles byteCount
        { samplePlan with nodes := [sampleBuild, sampleReview] } = .ok r := by
  obtain ⟨r, hr⟩ := samplePlan_accepted
  refine ⟨r, hr, (accepted_normal_form integerDoubles byteCount samplePlan r hr).1 _ ?_⟩
  have hdecision := (normalizeDefinition_same samplePlan).decision
  have hpolicy := (normalizeDefinition_same samplePlan).policy
  refine ⟨rfl, rfl, rfl, hdecision.trans hdecision.symm, ?_, ?_, List.Perm.refl _,
    hpolicy.trans hpolicy.symm⟩
  · refine ⟨samplePlan.nodes, List.forall₂_same.mpr fun n _ => ?_, List.Perm.swap _ _ _⟩
    exact (normalizeNode_same n).trans (normalizeNode_same n).symm
  · exact Unordered.Same.refl
      (fun e => (normalizeEdge_same e).trans (normalizeEdge_same e).symm) _

end AgentRoom.Plan
