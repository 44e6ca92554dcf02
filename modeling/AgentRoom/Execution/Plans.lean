import AgentRoom.Execution.CarryForward

/-!
# How plans change

The writes of `ExecutionPlanRepository`, `ExecutionApprovalRepository` and
`ExecutionSettlementService` that concern a plan, with the trigger that pauses a plan when one of
its Tasks drifts, and a step of Central as far as plans are concerned. The opaque ids a write
makes are its arguments.
-/

namespace AgentRoom.Execution

open Plan (PlanDefinition PlanEdge sortBy)

/-! ## Revisions -/

structure RevisionInput where
  planId : String
  decisionId : String
  proposalId : String
  rootTaskId : String
  roomId : String
  ownerMemberId : String
  definition : PlanDefinition
  definitionDigest : String
  author : PlanAuthor
  snapshots : List SourceSnapshot
  now : Time

def RevisionInput.row (i : RevisionInput) (revision : Nat) : PlanRevision where
  planId := i.planId
  revision
  proposalId := i.proposalId
  decisionId := i.decisionId
  definition := i.definition
  author := i.author
  digest := i.definitionDigest
  createdAt := i.now

/-- A plan begins as a draft. -/
def RevisionInput.plan (i : RevisionInput) : PlanRow where
  planId := i.planId
  rootTaskId := i.rootTaskId
  roomId := i.roomId
  ownerMemberId := i.ownerMemberId
  currentRevision := 1
  controlRevision := 1
  state := .draft
  createdAt := i.now
  updatedAt := i.now

/-- The revisions of a plan are contiguous. -/
def nextRevision (db : ExecutionDb) (planId : String) : Nat :=
  ((db.revisions.filter fun r => r.planId = planId).map (·.revision)).foldr max 0 + 1

/-- The decision with its frozen sources, the proposal and the revision. -/
def insertRevision (i : RevisionInput) (revision : Nat) : Db Unit := do
  let _ ← Tx.forEach (fun snapshot : SourceSnapshot =>
    insertRow (fun db => db.decisionSources.all fun s => ¬(s.decisionId = i.decisionId ∧
        s.snapshot.source.evidenceRefId = snapshot.source.evidenceRefId))
      fun db => { db with
        decisionSources := db.decisionSources ++ [⟨i.decisionId, snapshot⟩] }) i.snapshots
  insertRow (fun db => db.revisions.all (fun r => r.proposalId ≠ i.proposalId ∧
      r.decisionId ≠ i.decisionId) && decide (revision = nextRevision db i.planId))
    fun db => { db with revisions := db.revisions ++ [i.row revision] }

/-- The row of a draft that a new revision meets. -/
def PlanRow.drafted (p : PlanRow) (planId : String) (revision : Nat) : Bool :=
  p.planId = planId ∧ p.currentRevision = revision ∧ p.state = .draft

/-- `append`: a new plan, or the next revision of a draft. -/
def append (plan : Option PlanProjection) (i : RevisionInput) (operationId : String) :
    Db Unit := do
  match plan with
  | none => do
      insertRow (fun db => db.plans.all fun p => p.planId ≠ i.planId)
        fun db => { db with plans := db.plans ++ [i.plan] }
      insertRevision i 1
  | some plan => do
      let revision := plan.current.revision
      insertRevision { i with planId := plan.planId } (revision + 1)
      check fun db => require (db.plans.countP (·.drafted plan.planId revision) = 1)
        "EXECUTION_REVISION_CONFLICT"
      modify fun db => { db with
        plans := db.plans.map fun p => if p.drafted plan.planId revision then
          { p with currentRevision := revision + 1, updatedAt := i.now } else p }
  insertRow (fun db => decide (operationId ∉ db.planOperations) &&
      db.approvals.all fun a => a.operationId ≠ operationId)
    fun db => { db with planOperations := db.planOperations ++ [operationId] }

/-- What a candidate says beside its revision. -/
structure CandidateInput where
  candidateId : String
  operationId : String
  rootTaskRevision : Nat
  requestDigest : String
  reason : String

def CandidateInput.row (c : CandidateInput) (plan : PlanProjection) (i : RevisionInput) :
    SupersessionCandidate where
  candidateId := c.candidateId
  operationId := c.operationId
  planId := plan.planId
  baseRevision := plan.current.revision
  baseDigest := plan.current.digest
  baseControlRevision := plan.controlRevision
  rootTaskRevision := c.rootTaskRevision
  candidateRevision := plan.current.revision + 1
  candidateDigest := i.definitionDigest
  definition := i.definition
  author := i.author
  reason := c.reason
  requestDigest := c.requestDigest
  createdAt := i.now

/-- `appendSupersessionCandidate`: the next revision of an active plan, to be activated. -/
def appendSupersessionCandidate (K : Contracts) (plan : PlanProjection) (i : RevisionInput)
    (c : CandidateInput) : Db Unit := do
  insertRevision { i with planId := plan.planId } (plan.current.revision + 1)
  let candidate := c.row plan i
  check fun _ => K.assertExecutionCommand (.supersessionCandidateRecord candidate)
  insertRow (fun db => db.candidates.all (fun o => o.candidateId ≠ candidate.candidateId ∧
      o.operationId ≠ candidate.operationId ∧ ¬(o.planId = candidate.planId ∧
        o.candidateRevision = candidate.candidateRevision)) &&
      db.plans.any fun p => p.pinned plan)
    fun db => { db with candidates := db.candidates ++ [candidate] }

/-! ## Approvals -/

structure ReviewInput where
  operationId : String
  decision : ApprovalDecision
  reason : String
  memberId : String
  expectedRootTaskRevision : Nat
  rootTaskRevisionAfter : Nat
  requestDigest : String
  compiled : List CompiledNode
  now : Time

def ReviewInput.compiledTasks (i : ReviewInput) : List CompiledTask :=
  sortBy (·.nodeKey) (i.compiled.map CompiledNode.compiled)

def ReviewInput.state (i : ReviewInput) : PlanState :=
  match i.decision with
  | .approved => .approved
  | .rejected => .draft

/-- The control revision a review leaves. -/
def ReviewInput.control (i : ReviewInput) (controlRevision : Nat) : Nat :=
  match i.decision with
  | .approved => controlRevision + 1
  | .rejected => controlRevision

def ReviewInput.row (i : ReviewInput) (plan : PlanProjection) : ApprovalRow where
  operationId := i.operationId
  planId := plan.planId
  revision := plan.current.revision
  digest := plan.current.digest
  decision := i.decision
  reason := i.reason
  reviewedByMemberId := i.memberId
  rootTaskRevisionBefore := i.expectedRootTaskRevision
  rootTaskRevisionAfter := i.rootTaskRevisionAfter
  compiledTasks := i.compiledTasks
  requestDigest := i.requestDigest
  plan := { plan with
    state := i.state
    controlRevision := i.control plan.controlRevision
    compiledTasks := i.compiledTasks
    updatedAt := i.now }
  reviewedAt := i.now

def insertClaim (claim : TaskClaim) : Db Unit :=
  insertRow (fun db => db.claims.all fun c => c.taskId ≠ claim.taskId ∧
      ¬(c.planId = claim.planId ∧ c.revision = claim.revision ∧ c.nodeKey = claim.nodeKey))
    fun db => { db with claims := db.claims ++ [claim] }

/-- The row of a draft that its review meets. -/
def PlanRow.reviewable (p : PlanRow) (plan : PlanProjection) : Bool :=
  p.drafted plan.planId plan.current.revision && decide (p.controlRevision = plan.controlRevision)

/-- `persist`, of a review. -/
def persist (plan : PlanProjection) (i : ReviewInput) : Db Unit := do
  let _ ← Tx.forEach (fun c : CompiledNode => do
    let row := c.row plan.planId plan.current.revision
    insertNode row
    insertClaim row.claim) i.compiled
  Tx.when (i.decision = .approved) do
    let _ ← Tx.forEach (fun edge : PlanEdge =>
      insertEdge ⟨plan.planId, plan.current.revision, edge⟩) plan.current.definition.edges
  insertApprovalRow (i.row plan)
  check fun db => require (db.plans.countP (·.reviewable plan) = 1) "EXECUTION_REVISION_CONFLICT"
  modify fun db => { db with
    plans := db.plans.map fun p => if p.reviewable plan then
      { p with
        state := i.state
        controlRevision := i.control plan.controlRevision
        updatedAt := i.now } else p }

/-! ## The state of a plan -/

/-- The settlement of a first Run starts an approved plan. -/
def PlanRow.started (planId : String) (revision : Nat) (now : Time) (p : PlanRow) : PlanRow :=
  if p.planId = planId ∧ p.currentRevision = revision ∧ p.state = .approved then
    { p with state := .running, updatedAt := now }
  else p

/-- `execution_definition_drift_update` and its kin: a plan pauses when a Task of it drifts. -/
def PlanRow.drifted (claims : List TaskClaim) (taskId : String) (now : Time) (p : PlanRow) :
    PlanRow :=
  if p.state ∈ [PlanState.approved, .running, .review] ∧ (p.rootTaskId = taskId ∨
      ∃ c ∈ claims, c.planId = p.planId ∧ c.taskId = taskId) then
    { p with state := .paused, controlRevision := p.controlRevision + 1, updatedAt := now }
  else p

/-! ## Steps -/

/-- The adoptions the other services retain. -/
def ownAdoptions (db : ExecutionDb) : List EvidenceAdoption :=
  db.adoptions.map (·.adoption) ++ db.remoteAdoptions

/-- **What the other services retain of evidence.** An adoption is one of a compiled node, under
an id of its own that no carried adoption has, and a reuse contract is of the revision its
adoption is of. -/
structure OwnEvidence (K : Contracts) (db : ExecutionDb) : Prop where
  compiled : ∀ a ∈ ownAdoptions db, ∃ n ∈ db.nodes,
    n.planId = a.planId ∧ n.revision = a.planRevision ∧ n.nodeKey = a.nodeKey
  ids : ((ownAdoptions db).map (·.adoptionId)).Nodup
  apart : ∀ a ∈ ownAdoptions db, ∀ operationId sourceId nodeKey,
    a.adoptionId ≠ carryId K operationId sourceId nodeKey
  reuse : ∀ k ∈ db.reuseContracts, ∃ a ∈ db.adoptions.map (·.adoption),
    a.adoptionId = k.adoptionId ∧ a.planId = k.planId ∧ a.planRevision = k.planRevision

/-- **What the other services keep.** They leave plans, their revisions, their compilations and
what an activation retained alone. -/
structure Elsewhere (K : Contracts) (db db' : ExecutionDb) : Prop where
  plans : db'.plans = db.plans
  revisions : db'.revisions = db.revisions
  approvals : db'.approvals = db.approvals
  nodes : db'.nodes = db.nodes
  edges : db'.edges = db.edges
  claims : db'.claims = db.claims
  candidates : db'.candidates = db.candidates
  activations : db'.activations = db.activations
  receipts : db'.receipts = db.receipts
  carriedAdoptions : db'.carriedAdoptions = db.carriedAdoptions
  carriedReuse : db'.carriedReuse = db.carriedReuse
  evidence : OwnEvidence K db'

/-- **A step of Central, as far as plans are concerned.** -/
inductive Step (K : Contracts) : ExecutionDb → ExecutionDb → Prop
  | append (plan : Option PlanProjection) (i : RevisionInput) (operationId : String)
      (db : ExecutionDb) : Step K db (Tx.immediate (append plan i operationId) db).2
  | candidate (plan : PlanProjection) (i : RevisionInput) (c : CandidateInput)
      (db : ExecutionDb) :
      Step K db (Tx.immediate (appendSupersessionCandidate K plan i c) db).2
  | review (plan : PlanProjection) (i : ReviewInput) (db : ExecutionDb) :
      Step K db (Tx.immediate (persist plan i) db).2
  | started (planId : String) (revision : Nat) (now : Time) (db : ExecutionDb) :
      Step K db { db with plans := db.plans.map (PlanRow.started planId revision now) }
  | drifted (taskId : String) (now : Time) (db : ExecutionDb) :
      Step K db { db with plans := db.plans.map (PlanRow.drifted db.claims taskId now) }
  | activate (E : Surroundings) (memberId planId : String) (command : ActivationCommand)
      (db : ExecutionDb) : Step K db (activate K E memberId planId command db).2
  | activateForAgent (E : Surroundings) (planId : String) (command : ActivationCommand)
      (agentId runId delegationId : String) (db : ExecutionDb) :
      Step K db (activateForAgent K E planId command agentId runId delegationId db).2
  | elsewhere {db db' : ExecutionDb} (h : Elsewhere K db db') : Step K db db'

/-- A state Central reaches from the empty tables. -/
def Reachable (K : Contracts) (db : ExecutionDb) : Prop :=
  Relation.ReflTransGen (Step K) {} db

end AgentRoom.Execution
