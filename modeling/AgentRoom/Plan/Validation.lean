import AgentRoom.Plan.Types
import AgentRoom.Lib.Kahn

/-!
# Validating a plan definition

`validateExecutionPlanDefinition` and what it calls: the decision, each node, the edges and
their bindings, the external inputs, the integration targets, the topological order, and the
normal form with its digest.
-/

namespace AgentRoom.Plan

open Contracts (Doubles JsValue unitsLe canonicalExecutionJSON executionOperationDigest
  canonicalValue)

/-! ## Order of texts -/

/-- `binaryCompare(a, b) <= 0`. -/
def textLe (a b : String) : Prop := unitsLe (unitsOf a) (unitsOf b)

instance : DecidableRel textLe := fun _ _ => inferInstanceAs (Decidable (unitsLe _ _))

instance : IsTrans String textLe := ⟨fun a b c => IsTrans.trans (unitsOf a) (unitsOf b) (unitsOf c)⟩

instance : Std.Total textLe := ⟨fun a b => Std.Total.total (unitsOf a) (unitsOf b)⟩

/-- `entries.sort(by(key))`. -/
def sortBy {α : Type} (key : α → String) (entries : List α) : List α :=
  entries.insertionSort fun a b => textLe (key a) (key b)

/-! ## Conditions -/

def requireCondition (condition : Prop) [Decidable condition] (code : String) :
    Except String Unit :=
  if condition then .ok () else .error code

def unique {α κ : Type} [DecidableEq κ] (entries : List α) (key : α → κ) (code : String) :
    Except String Unit :=
  requireCondition (entries.map key).Nodup code

def nonblank (value : String) : Except String Unit :=
  requireCondition (isBlank value = false) "PLAN_EMPTY_TEXT"

section Decision

variable (D : Doubles)

def validateDecision (decision : DecisionContent) : Except String Unit := do
  nonblank decision.summary
  unique decision.items (·.itemKey) "PLAN_DUPLICATE_DECISION"
  unique decision.unresolvedQuestions (·.questionKey) "PLAN_DUPLICATE_QUESTION"
  unique decision.sources (·.evidenceRefId) "PLAN_DUPLICATE_SOURCE"
  unique decision.sourceRevisions (·.evidenceRefId) "PLAN_DUPLICATE_SOURCE_REVISION"
  requireCondition (decision.sourceRevisions.length = decision.sources.length ∧
    ∀ source ∈ decision.sources, ∃ pin ∈ decision.sourceRevisions,
      pin.evidenceRefId = source.evidenceRefId) "PLAN_SOURCE_REVISION_MISMATCH"
  decision.items.forM fun item => nonblank item.statement
  decision.unresolvedQuestions.forM fun question => nonblank question.text
  unique decision.sources (fun source => canonicalValue D (source.pin.toJson D))
    "PLAN_DUPLICATE_SOURCE"

end Decision

/-! ## Nodes -/

/-- The segments of a path. -/
def segments (text : String) : List String := (text.toList.splitOn '/').map String.ofList

/-- `toLowerCase`, on the letters that `.git` and `.lock` have. -/
def toLowerCase (text : String) : String := String.ofList (text.toList.map Char.toLower)

def endsWith (text ending : String) : Bool := ending.toList.isSuffixOf text.toList

def startsWith (text beginning : String) : Bool := beginning.toList.isPrefixOf text.toList

def validatePrefix (path : String) : Except String Unit :=
  if path = "." then .ok ()
  else
    requireCondition (path = trim path ∧ ∀ part ∈ segments path,
      part ≠ "." ∧ part ≠ ".." ∧ toLowerCase part ≠ ".git" ∧ part = trim part ∧
        endsWith part "." = false) "PLAN_UNSAFE_PATH"

def validatePaths (paths : List String) : Except String Unit := do
  requireCondition paths.Nodup "PLAN_DUPLICATE_PATH"
  paths.forM validatePrefix

def sortCriteria (criteria : List Criterion) : List Criterion :=
  criteria.insertionSort fun a b => a.ordinal ≤ b.ordinal

def validateNewTask (task : NewTask) : Except String Unit := do
  nonblank task.title
  nonblank task.goal
  unique task.criteria (·.criterionKey) "PLAN_DUPLICATE_CRITERION"
  let criteria := sortCriteria task.criteria
  requireCondition (criteria.map (·.ordinal) = List.range' 1 criteria.length)
    "PLAN_CRITERIA_ORDER"
  requireCondition (∃ criterion ∈ criteria, criterion.required)
    "PLAN_REQUIRED_CRITERION_MISSING"
  criteria.forM fun criterion => nonblank criterion.description

def validateTask (task : NodeTask) (rootTaskId : String) : Except String Unit :=
  match task with
  | .new task => validateNewTask task
  | .existing task => requireCondition (task.taskId ≠ rootTaskId) "PLAN_ROOT_IS_NODE"

def validateScope (scope : ScopePolicy) : Except String Unit := do
  validatePaths scope.allowedPaths
  validatePaths scope.forbiddenPaths
  match scope.access with
  | .readOnly => requireCondition (scope.allowedPaths.length = 0) "PLAN_READ_ONLY_WRITE_SCOPE"
  | .isolatedWrite => do
      requireCondition (scope.allowedPaths.length > 0) "PLAN_WRITE_SCOPE_MISSING"
      requireCondition (∃ allowed ∈ scope.allowedPaths, ¬ ∃ forbidden ∈ scope.forbiddenPaths,
        forbidden = "." ∨ allowed = forbidden ∨ startsWith allowed (forbidden ++ "/"))
        "PLAN_WRITE_SCOPE_FULLY_FORBIDDEN"

/-- `["patch", "commit"].includes(kind)`. -/
def ArtifactKind.isCode : ArtifactKind → Bool
  | .patch | .commit => true
  | _ => false

def validateKind (node : PlanNode) : Except String Unit :=
  match node.kind with
  | .implementation => do
      requireCondition (node.scope.access = .isolatedWrite) "PLAN_WRITER_NOT_ISOLATED"
      requireCondition (∃ profile ∈ node.verificationProfiles, profile.required)
        "PLAN_REQUIRED_VERIFICATION_MISSING"
      requireCondition (∃ slot ∈ node.outputs, slot.required ∧ slot.kind.isCode)
        "PLAN_CODE_OUTPUT_MISSING"
  | _ => requireCondition (node.scope.access = .readOnly) "PLAN_REVIEWER_WRITE_SCOPE"

def validateNode (node : PlanNode) (rootTaskId : String) : Except String Unit := do
  validateTask node.task rootTaskId
  unique node.inputs (·.slotKey) "PLAN_DUPLICATE_INPUT"
  unique node.outputs (·.slotKey) "PLAN_DUPLICATE_OUTPUT"
  unique node.verificationProfiles (·.profileId) "PLAN_DUPLICATE_PROFILE"
  validateScope node.scope
  validateKind node

/-- `repositories` and `bindings`. -/
structure RepositoryMaps where
  repositories : Table String String
  bindings : Table String String

def RepositoryMaps.empty : RepositoryMaps where
  repositories := .empty
  bindings := .empty

/-- The map has no other value under the key. -/
def agrees (map : Table String String) (key value : String) : Prop :=
  ∀ other, map.get key = some other → other = value

instance (map : Table String String) (key value : String) : Decidable (agrees map key value) :=
  match h : map.get key with
  | none => isTrue (by simp [agrees, h])
  | some other => decidable_of_iff (other = value) (by simp [agrees, h])

/-- One pass of the loop over the nodes. -/
def checkNode (rootTaskId : String) (maps : RepositoryMaps) (node : PlanNode) :
    Except String RepositoryMaps := do
  validateNode node rootTaskId
  let r := node.repository
  requireCondition (agrees maps.repositories r.repositoryId r.baseCommit)
    "PLAN_REPOSITORY_BASE_CONFLICT"
  requireCondition (agrees maps.bindings r.bindingId r.repositoryId)
    "PLAN_REPOSITORY_BINDING_CONFLICT"
  pure {
    repositories := maps.repositories.put r.repositoryId r.baseCommit
    bindings := maps.bindings.put r.bindingId r.repositoryId }

/-! ## Edges -/

/-- The node under a key; the keys are unique. -/
def nodeAt (value : PlanDefinition) (key : String) : Option PlanNode :=
  value.nodes.find? fun node => node.nodeKey = key

def slotAt (slots : List ArtifactSlot) (key : String) : Option ArtifactSlot :=
  slots.find? fun slot => slot.slotKey = key

/-- An input of a node, in `producers`. -/
def inputIdentity (nodeKey slotKey : String) : String := nodeKey ++ "/" ++ slotKey

def bindInput (node : Option PlanNode) (slotKey : String) (kind : ArtifactKind)
    (producers : List String) : Except String (List String) := do
  match node with
  | none => .error "PLAN_INPUT_SLOT_MISMATCH"
  | some node =>
    requireCondition ((slotAt node.inputs slotKey).map (·.kind) = some kind)
      "PLAN_INPUT_SLOT_MISMATCH"
    let identity := inputIdentity node.nodeKey slotKey
    requireCondition (identity ∉ producers) "PLAN_MULTIPLE_INPUT_PRODUCERS"
    pure (producers ++ [identity])

def checkBinding (source target : PlanNode) (producers : List String) (binding : EdgeBinding) :
    Except String (List String) := do
  match slotAt source.outputs binding.outputSlot with
  | none => .error "PLAN_OUTPUT_SLOT_MISSING"
  | some slot =>
    let inputSlot := slotAt target.inputs binding.inputSlot
    requireCondition (∀ input, inputSlot = some input → input.required → slot.required)
      "PLAN_OPTIONAL_REQUIRED_INPUT"
    if slot.kind.isCode then
      requireCondition (source.repository.repositoryId = target.repository.repositoryId)
        "PLAN_CROSS_REPOSITORY_CODE_INPUT"
    bindInput (some target) binding.inputSlot slot.kind producers

/-- What the loop over the edges builds. -/
structure EdgeState where
  producers : List String
  pairs : List String
  outgoing : String → List String
  indegree : String → Int

def EdgeState.empty : EdgeState where
  producers := []
  pairs := []
  outgoing _ := []
  indegree _ := 0

/-- One pass of the loop over the edges. -/
def checkEdge (value : PlanDefinition) (s : EdgeState) (edge : PlanEdge) :
    Except String EdgeState := do
  match nodeAt value edge.fromNodeKey, nodeAt value edge.toNodeKey with
  | some source, some target =>
    -- the two are one node when their keys are equal
    requireCondition (source.nodeKey ≠ target.nodeKey) "PLAN_SELF_EDGE"
    let pair := edge.fromNodeKey ++ "/" ++ edge.toNodeKey
    requireCondition (pair ∉ s.pairs) "PLAN_DUPLICATE_EDGE_PAIR"
    if edge.gate = .verifiedOutput then
      requireCondition (∃ profile ∈ source.verificationProfiles, profile.required)
        "PLAN_UNVERIFIABLE_EDGE"
    if edge.gate = .integratedCommit then
      requireCondition (value.policy.integration ≠ .reviewedCandidate)
        "PLAN_INTEGRATION_GATE_UNAVAILABLE"
    let producers ← edge.bindings.foldlM (checkBinding source target) s.producers
    pure {
      producers
      pairs := s.pairs ++ [pair]
      outgoing := Function.update s.outgoing source.nodeKey
        (s.outgoing source.nodeKey ++ [target.nodeKey])
      indegree := Function.update s.indegree target.nodeKey (s.indegree target.nodeKey + 1) }
  | _, _ => .error "PLAN_EDGE_NODE_MISSING"

def checkExternalInput (value : PlanDefinition) (producers : List String) (input : ExternalInput) :
    Except String (List String) :=
  bindInput (nodeAt value input.nodeKey) input.inputSlot input.kind producers

/-! ## Integration targets -/

def targetRefSafe (targetRef : String) : Bool :=
  !(decide (['.', '.'] <:+: targetRef.toList)) && !(decide (['/', '/'] <:+: targetRef.toList)) &&
    !endsWith targetRef "/" && (segments targetRef).all fun part =>
      !startsWith part "." && !endsWith part "." && !endsWith (toLowerCase part) ".lock"

def targetIdentity (target : IntegrationTarget) : String :=
  target.repositoryId ++ "/" ++ target.targetRef

def checkTarget (repositories : Table String String) (targetKeys : List String)
    (target : IntegrationTarget) : Except String (List String) := do
  let key := targetIdentity target
  requireCondition ((repositories.get target.repositoryId).isSome ∧ key ∉ targetKeys)
    "PLAN_INTEGRATION_TARGET_INVALID"
  requireCondition (targetRefSafe target.targetRef) "PLAN_INTEGRATION_TARGET_INVALID"
  requireCondition (repositories.get target.repositoryId = some target.expectedCommit)
    "PLAN_INTEGRATION_BASE_CONFLICT"
  pure (targetKeys ++ [key])

/-! ## The definition -/

section Definition

variable (D : Doubles)

/-- `assertExecutionCommand("planDefinition", value)`. -/
def assertPlanDefinition (value : PlanDefinition) : Except String Unit := do
  let _ ← canonicalExecutionJSON D (value.toJson D)
  requireCondition (value.schema = true) "PLAN_SCHEMA_INVALID"

/-- The action a new task was taken from. -/
def sourceActionOf (node : PlanNode) : Option SourceAction :=
  match node.task with
  | .new task => task.sourceAction
  | .existing _ => none

def existingTaskOf (node : PlanNode) : Option String :=
  match node.task with
  | .new _ => none
  | .existing task => some task.taskId

/-- The checks over all nodes. -/
def checkNodes (value : PlanDefinition) : Except String Unit := do
  unique value.nodes (·.nodeKey) "PLAN_DUPLICATE_NODE"
  unique value.edges (·.edgeKey) "PLAN_DUPLICATE_EDGE"
  requireCondition (value.nodes.filterMap existingTaskOf).Nodup "PLAN_DUPLICATE_TASK"
  requireCondition ((value.nodes.filterMap sourceActionOf).map fun action =>
    canonicalValue D (action.toJson D)).Nodup "PLAN_DUPLICATE_SOURCE_ACTION"
  (value.nodes.filterMap sourceActionOf).forM fun action =>
    requireCondition (∃ source ∈ value.decision.sources, source.pin = .result action.resultId)
      "PLAN_SOURCE_ACTION_EVIDENCE_REQUIRED"
  requireCondition (∃ node ∈ value.nodes, node.required) "PLAN_REQUIRED_NODE_MISSING"
  requireCondition ((value.nodes.filter (·.required)).length ≤ value.policy.budget.maxRunAttempts)
    "PLAN_BUDGET_BELOW_REQUIRED_NODES"

/-- **Every check before the topological order**, and the edges it has gone through. -/
def checkPlan (value : PlanDefinition) : Except String EdgeState := do
  assertPlanDefinition D value
  nonblank value.title
  validateDecision D value.decision
  checkNodes D value
  let maps ← value.nodes.foldlM (checkNode value.rootTaskId) .empty
  let graph ← value.edges.foldlM (checkEdge value) .empty
  let producers ← value.externalInputs.foldlM (checkExternalInput value) graph.producers
  requireCondition (∀ node ∈ value.nodes, ∀ slot ∈ node.inputs, slot.required →
    inputIdentity node.nodeKey slot.slotKey ∈ producers) "PLAN_REQUIRED_INPUT_MISSING"
  let _ ← value.policy.integrationTargets.foldlM (checkTarget maps.repositories) []
  if value.policy.integration ≠ .reviewedCandidate then
    requireCondition (∀ repositoryId ∈ maps.repositories.keys,
      ∃ target ∈ value.policy.integrationTargets, target.repositoryId = repositoryId)
      "PLAN_INTEGRATION_TARGET_MISSING"
  pure graph

/-- The loop that empties `ready`. -/
def topologicalOrder (value : PlanDefinition) (graph : EdgeState) : List String :=
  Kahn.run textLe graph.outgoing (value.nodes.length + 1)
    (Kahn.start textLe (value.nodes.map (·.nodeKey)) graph.indegree)

def normalizeTask : NodeTask → NodeTask
  | .new task => .new { task with criteria := sortCriteria task.criteria }
  | .existing task => .existing task

def normalizeNode (node : PlanNode) : PlanNode :=
  { node with
    task := normalizeTask node.task
    scope := { node.scope with
      allowedPaths := sortBy id node.scope.allowedPaths
      forbiddenPaths := sortBy id node.scope.forbiddenPaths }
    verificationProfiles := sortBy (·.profileId) node.verificationProfiles
    inputs := sortBy (·.slotKey) node.inputs
    outputs := sortBy (·.slotKey) node.outputs }

def normalizeEdge (edge : PlanEdge) : PlanEdge :=
  { edge with bindings := sortBy (·.inputSlot) edge.bindings }

/-- `binaryCompare(a.first, b.first) || binaryCompare(a.second, b.second)`. -/
def pairLe (a b : String × String) : Prop :=
  if a.1 = b.1 then textLe a.2 b.2 else textLe a.1 b.1

instance : DecidableRel pairLe := fun a b => by unfold pairLe; infer_instance

/-- **The normal form** of a definition. -/
def normalizeDefinition (value : PlanDefinition) : PlanDefinition :=
  { value with
    decision := { value.decision with
      items := sortBy (·.itemKey) value.decision.items
      sources := sortBy (·.evidenceRefId) value.decision.sources
      sourceRevisions := sortBy (·.evidenceRefId) value.decision.sourceRevisions
      unresolvedQuestions := sortBy (·.questionKey) value.decision.unresolvedQuestions }
    nodes := (sortBy (·.nodeKey) value.nodes).map normalizeNode
    edges := (sortBy (·.edgeKey) value.edges).map normalizeEdge
    externalInputs := value.externalInputs.insertionSort fun a b =>
      pairLe (a.nodeKey, a.inputSlot) (b.nodeKey, b.inputSlot)
    policy := { value.policy with
      integrationTargets := value.policy.integrationTargets.insertionSort fun a b =>
        pairLe (a.repositoryId, a.targetRef) (b.repositoryId, b.targetRef) } }

/-- What a definition is validated to. -/
structure Validated where
  definition : PlanDefinition
  topologicalOrder : List String
  digest : String
  approvalBlockers : List String

def approvalBlockers (definition : PlanDefinition) : List String :=
  (definition.decision.unresolvedQuestions.filter (·.required)).map (·.questionKey)

/-- **`validateExecutionPlanDefinition`.** -/
def validateExecutionPlanDefinition (sha256 : List UInt8 → String) (value : PlanDefinition) :
    Except String Validated := do
  let graph ← checkPlan D value
  let order := topologicalOrder value graph
  requireCondition (order.length = value.nodes.length) "PLAN_CYCLE"
  let definition := normalizeDefinition value
  let digest ← executionOperationDigest D sha256 (definition.toJson D)
  pure { definition, topologicalOrder := order, digest,
         approvalBlockers := approvalBlockers definition }

end Definition

end AgentRoom.Plan
