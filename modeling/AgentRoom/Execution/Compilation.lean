import AgentRoom.Execution.Store

/-!
# The compilation of a plan, and the dependencies of a node

What an approval retains of a plan revision: a node row for each node with the Task compiled for
it, the edges, and the approval itself, which the database accepts only beside its exact
compilation. A compilation is sealed once its approval is there.

An insert is refused when its key is taken.

`ExecutionDependencyResolver`: the Artifact each bound input slot of a node takes, read off the
adopted evidence of the nodes it depends on. It only reads; whether a Run may be given these
inputs is for the freeze to say.
-/

namespace AgentRoom.Execution

open Plan (ArtifactSlot EdgeBinding Gate PlanDefinition PlanEdge PlanNode Validated sortBy textLe)

section Compilation

/-- Lift a check into a program. -/
def check {α : Type} (x : ExecutionDb → Except Err α) : Db α := fun db => (x db, db)

/-- Write a row that `free` says is not in the way of another. -/
def insertRow (free : ExecutionDb → Bool) (put : ExecutionDb → ExecutionDb) : Db Unit := do
  check fun db => require (free db = true) constraintFailed
  modify put

@[simp] theorem require_ok {condition : Prop} [Decidable condition] {code : Err} {u : Unit} :
    require condition code = .ok u ↔ condition := by
  unfold require
  split <;> simp [*]

variable {α : Type} {x : ExecutionDb → Except Err α} {s s' : ExecutionDb}

@[simp] theorem check_ok {a : α} : check x s = (.ok a, s') ↔ x s = .ok a ∧ s = s' := by
  simp [check]

theorem insertRow_ok {free : ExecutionDb → Bool} {put : ExecutionDb → ExecutionDb} {u : Unit}
    (h : insertRow free put s = (.ok u, s')) :
    free s = true ∧ s' = put s := by
  obtain ⟨_, s₁, hcheck, hput⟩ := Tx.ok_of_bind h
  obtain ⟨hfree, rfl⟩ := check_ok.mp hcheck
  cases hput
  exact ⟨require_ok.mp hfree, rfl⟩

variable {β : Type} {f : α → Db β}

theorem bind_check_ok {a : α} (h : x s = .ok a) : (check x >>= f) s = f a s := by
  have hcheck : check x s = (.ok a, s) := check_ok.mpr ⟨h, rfl⟩
  exact Tx.bind_ok hcheck

theorem bind_check_error {e : Err} (h : x s = .error e) : (check x >>= f) s = (.error e, s) := by
  have hcheck : check x s = (.error e, s) := by simp [check, h]
  exact Tx.bind_error hcheck

theorem ok_of_check {b : β} (h : (check x >>= f) s = (.ok b, s')) :
    ∃ a, x s = .ok a ∧ f a s = (.ok b, s') := by
  obtain ⟨a, s₁, hcheck, hrest⟩ := Tx.ok_of_bind h
  obtain ⟨hok, rfl⟩ := check_ok.mp hcheck
  exact ⟨a, hok, hrest⟩

structure CompiledNode where
  node : PlanNode
  task : AgentTask

def AgentTask.contract (t : AgentTask) : TaskContract where
  taskId := t.taskId
  roomId := t.roomId
  parentTaskId := t.parentTaskId
  title := t.title
  goal := t.goal
  ownerMemberId := t.ownerMemberId
  completionPolicy := t.completionPolicy
  definitionRevision := t.definitionRevision
  criteriaRevision := t.criteriaRevision
  criteria := t.criteria
  assignments := t.assignments
  budgetPolicy := t.budgetPolicy

/-- `taskSnapshot`. -/
def AgentTask.snapshot (t : AgentTask) : TaskSnapshot := ⟨t.contract, t.taskRevision⟩

def CompiledNode.row (c : CompiledNode) (planId : String) (revision : Nat) : NodeRow where
  planId
  revision
  nodeKey := c.node.nodeKey
  taskId := c.task.taskId
  taskRevision := c.task.taskRevision
  definitionRevision := c.task.definitionRevision
  criteriaRevision := c.task.criteriaRevision
  agentId := c.node.agentId
  ownerMemberId := c.task.ownerMemberId
  node := c.node
  snapshot := c.task.snapshot

def NodeRow.claim (n : NodeRow) : TaskClaim := ⟨n.taskId, n.planId, n.revision, n.nodeKey⟩

def NodeRow.key (n : NodeRow) : String × Nat × String := (n.planId, n.revision, n.nodeKey)

/-- A Task has one node of a revision. -/
def NodeRow.taskKey (n : NodeRow) : String × Nat × String := (n.planId, n.revision, n.taskId)

/-- Whether the approval of a revision is retained. -/
def isReviewed (db : ExecutionDb) (planId : String) (revision : Nat) : Bool :=
  db.approvals.any fun a => a.planId = planId ∧ a.revision = revision

def insertNode (row : NodeRow) : Db Unit :=
  insertRow (fun db => db.nodes.all (fun n => ¬(n.planId = row.planId ∧
      n.revision = row.revision ∧ (n.nodeKey = row.nodeKey ∨ n.taskId = row.taskId))) &&
      !isReviewed db row.planId row.revision)
    fun db => { db with nodes := db.nodes ++ [row] }

def insertEdge (row : EdgeRow) : Db Unit :=
  insertRow (fun db => db.edges.all (fun e => ¬(e.planId = row.planId ∧
      e.revision = row.revision ∧ (e.edge.edgeKey = row.edge.edgeKey ∨
        (e.edge.fromNodeKey = row.edge.fromNodeKey ∧ e.edge.toNodeKey = row.edge.toNodeKey)))) &&
      decide (row.edge.fromNodeKey ≠ row.edge.toNodeKey) &&
      !isReviewed db row.planId row.revision)
    fun db => { db with edges := db.edges ++ [row] }

def CompiledNode.compiled (c : CompiledNode) : CompiledTask :=
  (c.row "" 0).compiled

/-- `execution_approval_require_exact_compilation_insert`, of what an approval retains. -/
def exactCompilation (db : ExecutionDb) (row : ApprovalRow) : Bool :=
  match getRevision db row.planId row.revision with
  | none => false
  | some proposal =>
    let nodes := nodesOf db row.planId row.revision
    let edges := db.edges.filter fun e => e.planId = row.planId ∧ e.revision = row.revision
    decide (proposal.digest = row.digest) &&
    match row.decision with
    | .rejected => decide (row.compiledTasks = [] ∧ nodes = [])
    | .approved =>
      decide (row.compiledTasks.length = proposal.definition.nodes.length ∧
        nodes.length = proposal.definition.nodes.length ∧
        edges.length = proposal.definition.edges.length) &&
      (proposal.definition.nodes.all fun expected => nodes.any fun n => n.node = expected &&
        row.compiledTasks.any (fun pin => n.compiled = pin) &&
        decide (n.claim ∈ db.claims)) &&
      proposal.definition.edges.all fun expected => edges.any fun e => e.edge = expected

/-- The revision of the root Task grows with an approval, and stays with a rejection. -/
def ApprovalRow.fences (row : ApprovalRow) : Bool :=
  match row.decision with
  | .approved => row.rootTaskRevisionAfter = row.rootTaskRevisionBefore + 1
  | .rejected => row.rootTaskRevisionAfter = row.rootTaskRevisionBefore

def insertApprovalRow (row : ApprovalRow) : Db Unit :=
  insertRow (fun db => db.approvals.all (fun p => p.operationId ≠ row.operationId ∧
      ¬(p.planId = row.planId ∧ p.revision = row.revision)) &&
      decide (row.operationId ∉ db.planOperations) && row.fences && exactCompilation db row)
    fun db => { db with approvals := db.approvals ++ [row] }

end Compilation

/-! ## The dependencies of a node -/

section Dependencies

/-- `ExecutionNodeIdentity`. -/
structure NodeIdentity where
  planId : String
  planRevision : Nat
  nodeKey : String

/-- `materializations.getAdopted`. -/
def getAdopted (db : ExecutionDb) (identity : NodeIdentity) (gate : Gate) :
    Option AdoptedMaterialization :=
  (allAdopted db).find? fun a => a.planId = identity.planId ∧
    a.planRevision = identity.planRevision ∧ a.nodeKey = identity.nodeKey ∧ a.gate = gate

/-- `ExecutionDependencyResolution`. -/
inductive Resolution where
  | ready (selections : List InputSelection)
  | blocked (blocker : Err)

def PlanState.schedulable (state : PlanState) : Bool :=
  state = .approved || state = .running

def nodeOf (definition : PlanDefinition) (nodeKey : String) : Option PlanNode :=
  definition.nodes.find? fun n => n.nodeKey = nodeKey

def slotOf (slots : List ArtifactSlot) (slotKey : String) : Option ArtifactSlot :=
  slots.find? fun s => s.slotKey = slotKey

def pinOf (pins : List ArtifactPin) (outputSlot : String) : Option ArtifactPin :=
  pins.find? fun p => p.outputSlot = outputSlot

/-- `edgeOrder`: by the place of the source in the topological order, then by key. -/
def edgeLe (topologicalOrder : List String) (left right : PlanEdge) : Prop :=
  topologicalOrder.idxOf left.fromNodeKey < topologicalOrder.idxOf right.fromNodeKey ∨
    topologicalOrder.idxOf left.fromNodeKey = topologicalOrder.idxOf right.fromNodeKey ∧
      textLe left.edgeKey right.edgeKey

instance (order : List String) : DecidableRel (edgeLe order) := fun a b => by
  unfold edgeLe; infer_instance

/-- The edges into a node, in the order their sources run in. -/
def incomingEdges (validated : Validated) (node : PlanNode) : List PlanEdge :=
  (validated.definition.edges.filter fun e => e.toNodeKey = node.nodeKey).insertionSort
    (edgeLe validated.topologicalOrder)

/-- The authority of an adopted materialization, as a selection cites it. -/
def AdoptedMaterialization.authority (a : AdoptedMaterialization) : InputSourceAuthority where
  sourceEvidenceId := a.sourceEvidenceId
  sourceDigest := a.sourceDigest
  adoptionId := a.adoptionId
  adoptionDigest := a.adoptionDigest

def AdoptedMaterialization.selection (a : AdoptedMaterialization) (pin : ArtifactPin)
    (inputSlot : String) : InputSelection where
  artifactId := pin.artifactId
  inputSlot
  sourceResultId := a.sourceResultId
  sourceAuthority := some a.authority

/-- One binding of an edge. A slot is occupied once it has a selection. -/
def selectBinding (node source : PlanNode) (adopted : AdoptedMaterialization)
    (selections : List InputSelection) (binding : EdgeBinding) :
    Except Err (List InputSelection) :=
  match slotOf node.inputs binding.inputSlot, slotOf source.outputs binding.outputSlot,
      pinOf adopted.artifactPins binding.outputSlot with
  | some input, some output, some artifact =>
    if (∃ s ∈ selections, s.inputSlot = input.slotKey) ∨ input.kind ≠ output.kind ∨
        artifact.kind ≠ input.kind then
      .error "EXECUTION_DEPENDENCY_SELECTION_INVALID"
    else .ok (selections ++ [adopted.selection artifact input.slotKey])
  | _, _, _ => .error "EXECUTION_DEPENDENCY_SELECTION_INVALID"

/-- One edge into the node. -/
def selectEdge (db : ExecutionDb) (identity : NodeIdentity) (definition : PlanDefinition)
    (node : PlanNode) (selections : List InputSelection) (edge : PlanEdge) :
    Except Err (List InputSelection) :=
  match nodeOf definition edge.fromNodeKey,
      getAdopted db { identity with nodeKey := edge.fromNodeKey } edge.gate with
  | some source, some adopted =>
    if adopted.gate ≠ edge.gate then .error "EXECUTION_DEPENDENCY_NOT_MATERIALIZED"
    else (sortBy (·.inputSlot) edge.bindings).foldlM (selectBinding node source adopted) selections
  | _, _ => .error "EXECUTION_DEPENDENCY_NOT_MATERIALIZED"

/-- What is selected for a node of the definition. -/
def resolveNode (db : ExecutionDb) (identity : NodeIdentity) (validated : Validated)
    (node : PlanNode) : Resolution :=
  let incoming := incomingEdges validated node
  match incoming.foldlM (selectEdge db identity validated.definition node) [] with
  | .error blocker => .blocked blocker
  | .ok selections =>
    if ∃ input ∈ node.inputs, input.required ∧ ∀ s ∈ selections, s.inputSlot ≠ input.slotKey then
      .blocked (if incoming = [] then "EXECUTION_REQUIRED_INPUT_UNSUPPORTED"
        else "EXECUTION_DEPENDENCY_SELECTION_INVALID")
    else .ready selections

/-- **`resolve`.** -/
def resolve (K : Contracts) (db : ExecutionDb) (identity : NodeIdentity) :
    Except Err Resolution := do
  match ← getPlan db identity.planId with
  | none => pure (.blocked "EXECUTION_PLAN_STALE")
  | some plan =>
    if plan.current.revision = identity.planRevision ∧ plan.state.schedulable then
      let validated ← K.validateExecutionPlanDefinition plan.current.definition
      if validated.digest = plan.current.digest then
        match nodeOf validated.definition identity.nodeKey with
        | none => pure (.blocked "EXECUTION_PLAN_STALE")
        | some node => pure (resolveNode db identity validated node)
      else pure (.blocked "EXECUTION_PLAN_STALE")
    else pure (.blocked "EXECUTION_PLAN_STALE")

end Dependencies

end AgentRoom.Execution
