import AgentRoom.Contracts.ExecutionJson
import AgentRoom.Domain.Text

/-!
# Plan definitions

The records of an execution plan definition, with the fields the schema closes them to, the
JSON value of each, and the schema's own limits. The members of an object are listed in the
order of their keys.
-/

namespace AgentRoom.Plan

open Contracts (Doubles JsValue unitsLe)

/-! ## Records -/

structure DecisionItem where
  itemKey : String
  statement : String
  deriving DecidableEq

structure DecisionQuestion where
  questionKey : String
  text : String
  required : Bool
  deriving DecidableEq

/-- What a source of a decision is, apart from its reference. -/
inductive SourcePin where
  | artifact (artifactId : String)
  | discussion (discussionId : String)
  | memory (memoryId : String)
  | message (messageId : String)
  | result (resultId : String)
  | runEvent (runId : String) (sequence : Nat)
  deriving DecidableEq

structure Source where
  evidenceRefId : String
  pin : SourcePin
  deriving DecidableEq

structure SourceRevision where
  evidenceRefId : String
  revision : Nat
  deriving DecidableEq

structure DecisionContent where
  summary : String
  items : List DecisionItem
  unresolvedQuestions : List DecisionQuestion
  sources : List Source
  sourceRevisions : List SourceRevision
  deriving DecidableEq

structure Criterion where
  criterionKey : String
  description : String
  required : Bool
  ordinal : Nat
  deriving DecidableEq

structure SourceAction where
  resultId : String
  nextActionKey : String
  deriving DecidableEq

structure NewTask where
  title : String
  goal : String
  ownerMemberId : String
  criteria : List Criterion
  sourceAction : Option SourceAction
  deriving DecidableEq

structure ExistingTask where
  taskId : String
  expectedTaskRevision : Nat
  definitionRevision : Nat
  criteriaRevision : Nat
  deriving DecidableEq

/-- `nodeTask`, by its `mode`. -/
inductive NodeTask where
  | new (task : NewTask)
  | existing (task : ExistingTask)
  deriving DecidableEq

structure RepositoryInput where
  repositoryId : String
  bindingId : String
  baseCommit : String
  grantId : String
  grantRevision : Nat
  runtimeProfileId : String
  runtimeProfileDigest : String
  deriving DecidableEq

inductive Access where
  | readOnly | isolatedWrite
  deriving DecidableEq

structure ScopePolicy where
  access : Access
  allowedPaths : List String
  forbiddenPaths : List String
  requirePreventivePathEnforcement : Bool
  deriving DecidableEq

structure BudgetPolicy where
  maxRunAttempts : Nat
  maxExecutionDurationSeconds : Nat
  deriving DecidableEq

structure VerificationProfile where
  profileId : String
  revision : Nat
  digest : String
  required : Bool
  deriving DecidableEq

inductive ArtifactKind where
  | patch | commit | document | testResult
  deriving DecidableEq

structure ArtifactSlot where
  slotKey : String
  kind : ArtifactKind
  required : Bool
  deriving DecidableEq

inductive NodeKind where
  | implementation | review | verification
  deriving DecidableEq

structure PlanNode where
  nodeKey : String
  kind : NodeKind
  required : Bool
  task : NodeTask
  agentId : String
  repository : RepositoryInput
  scope : ScopePolicy
  budget : BudgetPolicy
  verificationProfiles : List VerificationProfile
  inputs : List ArtifactSlot
  outputs : List ArtifactSlot
  deriving DecidableEq

structure EdgeBinding where
  outputSlot : String
  inputSlot : String
  deriving DecidableEq

inductive Gate where
  | acceptedResult | verifiedOutput | integratedCommit
  deriving DecidableEq

structure PlanEdge where
  edgeKey : String
  fromNodeKey : String
  toNodeKey : String
  gate : Gate
  bindings : List EdgeBinding
  deriving DecidableEq

structure ExternalInput where
  nodeKey : String
  inputSlot : String
  sourceTaskId : String
  sourceResultId : String
  artifactId : String
  artifactRevision : Nat
  contentDigest : String
  kind : ArtifactKind
  deriving DecidableEq

structure IntegrationTarget where
  repositoryId : String
  targetRef : String
  expectedCommit : String
  deriving DecidableEq

inductive Integration where
  | reviewedCandidate | localIntegration | remotePr
  deriving DecidableEq

structure PlanPolicy where
  maxConcurrency : Nat
  budget : BudgetPolicy
  integration : Integration
  requireHumanIntegrationApproval : Bool
  integrationTargets : List IntegrationTarget
  deriving DecidableEq

structure PlanDefinition where
  schemaVersion : String
  rootTaskId : String
  title : String
  decision : DecisionContent
  nodes : List PlanNode
  edges : List PlanEdge
  externalInputs : List ExternalInput
  policy : PlanPolicy
  deriving DecidableEq

/-! ## JSON -/

section Json

variable (D : Doubles)

/-- A text of the source, as its code units. -/
def unitsOf (text : String) : List UInt16 := Utf16.encode text.toList

def jText (text : String) : JsValue D := .string (unitsOf text)

def jNat (n : Nat) : JsValue D := .number (D.ofRat n)

def jObject (members : List (String × JsValue D)) : JsValue D :=
  .object (members.map fun m => (unitsOf m.1, m.2))

def DecisionItem.toJson (i : DecisionItem) : JsValue D :=
  jObject D [("itemKey", jText D i.itemKey), ("statement", jText D i.statement)]

def DecisionQuestion.toJson (q : DecisionQuestion) : JsValue D :=
  jObject D [("questionKey", jText D q.questionKey), ("required", .bool q.required),
    ("text", jText D q.text)]

/-- The fields of a source apart from `evidenceRefId`, around that one. -/
def SourcePin.members (evidenceRefId : List (String × JsValue D)) :
    SourcePin → List (String × JsValue D)
  | .artifact artifactId =>
    ("artifactId", jText D artifactId) :: evidenceRefId ++ [("kind", jText D "artifact")]
  | .discussion discussionId =>
    ("discussionId", jText D discussionId) :: evidenceRefId ++ [("kind", jText D "discussion")]
  | .memory memoryId =>
    evidenceRefId ++ [("kind", jText D "memory"), ("memoryId", jText D memoryId)]
  | .message messageId =>
    evidenceRefId ++ [("kind", jText D "message"), ("messageId", jText D messageId)]
  | .result resultId =>
    evidenceRefId ++ [("kind", jText D "result"), ("resultId", jText D resultId)]
  | .runEvent runId sequence =>
    evidenceRefId ++ [("kind", jText D "run_event"), ("runId", jText D runId),
      ("sequence", jNat D sequence)]

def Source.toJson (s : Source) : JsValue D :=
  jObject D (s.pin.members D [("evidenceRefId", jText D s.evidenceRefId)])

/-- `{ evidenceRefId: _key, ...source }`. -/
def SourcePin.toJson (p : SourcePin) : JsValue D := jObject D (p.members D [])

def SourceRevision.toJson (r : SourceRevision) : JsValue D :=
  jObject D [("evidenceRefId", jText D r.evidenceRefId), ("revision", jNat D r.revision)]

def DecisionContent.toJson (d : DecisionContent) : JsValue D :=
  jObject D [("items", .array (d.items.map (·.toJson D))),
    ("sourceRevisions", .array (d.sourceRevisions.map (·.toJson D))),
    ("sources", .array (d.sources.map (·.toJson D))), ("summary", jText D d.summary),
    ("unresolvedQuestions", .array (d.unresolvedQuestions.map (·.toJson D)))]

def Criterion.toJson (c : Criterion) : JsValue D :=
  jObject D [("criterionKey", jText D c.criterionKey), ("description", jText D c.description),
    ("ordinal", jNat D c.ordinal), ("required", .bool c.required)]

def SourceAction.toJson (a : SourceAction) : JsValue D :=
  jObject D [("nextActionKey", jText D a.nextActionKey), ("resultId", jText D a.resultId)]

def NodeTask.toJson : NodeTask → JsValue D
  | .new t => jObject D ([("criteria", .array (t.criteria.map (·.toJson D))),
      ("goal", jText D t.goal), ("mode", jText D "new"),
      ("ownerMemberId", jText D t.ownerMemberId)] ++
      (t.sourceAction.map fun a => ("sourceAction", a.toJson D)).toList ++
      [("title", jText D t.title)])
  | .existing t => jObject D [("criteriaRevision", jNat D t.criteriaRevision),
      ("definitionRevision", jNat D t.definitionRevision),
      ("expectedTaskRevision", jNat D t.expectedTaskRevision), ("mode", jText D "existing"),
      ("taskId", jText D t.taskId)]

def RepositoryInput.toJson (r : RepositoryInput) : JsValue D :=
  jObject D [("baseCommit", jText D r.baseCommit), ("bindingId", jText D r.bindingId),
    ("grantId", jText D r.grantId), ("grantRevision", jNat D r.grantRevision),
    ("repositoryId", jText D r.repositoryId),
    ("runtimeProfileDigest", jText D r.runtimeProfileDigest),
    ("runtimeProfileId", jText D r.runtimeProfileId)]

def Access.text : Access → String
  | .readOnly => "read_only"
  | .isolatedWrite => "isolated_write"

def ScopePolicy.toJson (s : ScopePolicy) : JsValue D :=
  jObject D [("access", jText D s.access.text),
    ("allowedPaths", .array (s.allowedPaths.map (jText D))),
    ("forbiddenPaths", .array (s.forbiddenPaths.map (jText D))),
    ("requirePreventivePathEnforcement", .bool s.requirePreventivePathEnforcement)]

def BudgetPolicy.toJson (b : BudgetPolicy) : JsValue D :=
  jObject D [("maxExecutionDurationSeconds", jNat D b.maxExecutionDurationSeconds),
    ("maxRunAttempts", jNat D b.maxRunAttempts)]

def VerificationProfile.toJson (p : VerificationProfile) : JsValue D :=
  jObject D [("digest", jText D p.digest), ("profileId", jText D p.profileId),
    ("required", .bool p.required), ("revision", jNat D p.revision)]

def ArtifactKind.text : ArtifactKind → String
  | .patch => "patch"
  | .commit => "commit"
  | .document => "document"
  | .testResult => "test_result"

def ArtifactSlot.toJson (s : ArtifactSlot) : JsValue D :=
  jObject D [("kind", jText D s.kind.text), ("required", .bool s.required),
    ("slotKey", jText D s.slotKey)]

def NodeKind.text : NodeKind → String
  | .implementation => "implementation"
  | .review => "review"
  | .verification => "verification"

def PlanNode.toJson (n : PlanNode) : JsValue D :=
  jObject D [("agentId", jText D n.agentId), ("budget", n.budget.toJson D),
    ("inputs", .array (n.inputs.map (·.toJson D))), ("kind", jText D n.kind.text),
    ("nodeKey", jText D n.nodeKey), ("outputs", .array (n.outputs.map (·.toJson D))),
    ("repository", n.repository.toJson D), ("required", .bool n.required),
    ("scope", n.scope.toJson D), ("task", n.task.toJson D),
    ("verificationProfiles", .array (n.verificationProfiles.map (·.toJson D)))]

def EdgeBinding.toJson (b : EdgeBinding) : JsValue D :=
  jObject D [("inputSlot", jText D b.inputSlot), ("outputSlot", jText D b.outputSlot)]

def Gate.text : Gate → String
  | .acceptedResult => "accepted_result"
  | .verifiedOutput => "verified_output"
  | .integratedCommit => "integrated_commit"

def PlanEdge.toJson (e : PlanEdge) : JsValue D :=
  jObject D [("bindings", .array (e.bindings.map (·.toJson D))), ("edgeKey", jText D e.edgeKey),
    ("fromNodeKey", jText D e.fromNodeKey), ("gate", jText D e.gate.text),
    ("toNodeKey", jText D e.toNodeKey)]

def ExternalInput.toJson (i : ExternalInput) : JsValue D :=
  jObject D [("artifactId", jText D i.artifactId), ("artifactRevision", jNat D i.artifactRevision),
    ("contentDigest", jText D i.contentDigest), ("inputSlot", jText D i.inputSlot),
    ("kind", jText D i.kind.text), ("nodeKey", jText D i.nodeKey),
    ("sourceResultId", jText D i.sourceResultId), ("sourceTaskId", jText D i.sourceTaskId)]

def IntegrationTarget.toJson (t : IntegrationTarget) : JsValue D :=
  jObject D [("expectedCommit", jText D t.expectedCommit),
    ("repositoryId", jText D t.repositoryId), ("targetRef", jText D t.targetRef)]

def Integration.text : Integration → String
  | .reviewedCandidate => "reviewed_candidate"
  | .localIntegration => "local_integration"
  | .remotePr => "remote_pr"

def PlanPolicy.toJson (p : PlanPolicy) : JsValue D :=
  jObject D [("budget", p.budget.toJson D), ("integration", jText D p.integration.text),
    ("integrationTargets", .array (p.integrationTargets.map (·.toJson D))),
    ("maxConcurrency", jNat D p.maxConcurrency),
    ("requireHumanIntegrationApproval", .bool p.requireHumanIntegrationApproval)]

def PlanDefinition.toJson (d : PlanDefinition) : JsValue D :=
  jObject D [("decision", d.decision.toJson D), ("edges", .array (d.edges.map (·.toJson D))),
    ("externalInputs", .array (d.externalInputs.map (·.toJson D))),
    ("nodes", .array (d.nodes.map (·.toJson D))), ("policy", d.policy.toJson D),
    ("rootTaskId", jText D d.rootTaskId), ("schemaVersion", jText D d.schemaVersion),
    ("title", jText D d.title)]

end Json

/-! ## The schema -/

def isWordChar (c : Char) : Bool := c.isAlphanum || c = '_' || c = '-'

/-- `^[A-Za-z][A-Za-z0-9_-]{0,63}$`. -/
def stableKey (text : String) : Bool :=
  match text.toList with
  | [] => false
  | c :: rest => c.isAlpha && rest.length ≤ 63 && rest.all isWordChar

/-- An id: the mark of its kind, then `[A-Za-z0-9_-]{8,maximum}`. -/
def markedId (mark : String) (maximum : Nat) (text : String) : Bool :=
  mark.toList.isPrefixOf text.toList &&
    let rest := text.toList.drop mark.length
    8 ≤ rest.length && rest.length ≤ maximum && rest.all isWordChar

def isHex (c : Char) : Bool := c.isDigit || ('a'.toNat ≤ c.toNat && c.toNat ≤ 'f'.toNat)

/-- `^[a-f0-9]{64}$`. -/
def digestText (text : String) : Bool := text.length = 64 && text.toList.all isHex

def gitObjectId (text : String) : Bool :=
  (text.length = 40 || text.length = 64) && text.toList.all isHex

/-- `minLength` and `maxLength`, in code points. -/
def lengthWithin (minimum maximum : Nat) (text : String) : Bool :=
  minimum ≤ text.length && text.length ≤ maximum

def natWithin (minimum maximum n : Nat) : Bool := minimum ≤ n && n ≤ maximum

def revisionWithin (n : Nat) : Bool := natWithin 1 9007199254740991 n

def itemsWithin {α : Type} (minimum maximum : Nat) (item : α → Bool) (items : List α) : Bool :=
  minimum ≤ items.length && items.length ≤ maximum && items.all item

/-- A character of a path segment. -/
def isPathChar (c : Char) : Bool :=
  0x20 ≤ c.toNat && c.toNat ≠ 0x7F &&
    !(['/', '\\', ':', '*', '?', '"', '<', '>', '|'].contains c)

/-- `pathPrefix`: segments that are not empty. -/
def pathPrefix (text : String) : Bool :=
  lengthWithin 1 512 text &&
    (text.toList.splitOn '/').all fun segment => !segment.isEmpty && segment.all isPathChar

/-- `refs/heads/`, a letter or digit, and then also dots, slashes, dashes and underscores. -/
def targetRefText (text : String) : Bool :=
  lengthWithin 12 255 text && "refs/heads/".toList.isPrefixOf text.toList &&
    match text.toList.drop 11 with
    | [] => false
    | c :: rest => c.isAlphanum && rest.all fun d => d.isAlphanum || ['.', '_', '/', '-'].contains d

def taskIdText := markedId "task_" 128
def resultIdText := markedId "result_" 128
def evidenceRefIdText := markedId "evidence_" 64

def DecisionItem.schema (i : DecisionItem) : Bool :=
  stableKey i.itemKey && lengthWithin 1 4000 i.statement

def DecisionQuestion.schema (q : DecisionQuestion) : Bool :=
  stableKey q.questionKey && lengthWithin 1 2000 q.text

def SourcePin.schema : SourcePin → Bool
  | .artifact artifactId => markedId "artifact_" 128 artifactId
  | .discussion discussionId => markedId "discussion_" 128 discussionId
  | .memory memoryId => markedId "memory_" 128 memoryId
  | .message messageId => markedId "msg_" 128 messageId
  | .result id => resultIdText id
  | .runEvent runId sequence => markedId "run_" 128 runId && revisionWithin sequence

def Source.schema (s : Source) : Bool := evidenceRefIdText s.evidenceRefId && s.pin.schema

def SourceRevision.schema (r : SourceRevision) : Bool :=
  evidenceRefIdText r.evidenceRefId && revisionWithin r.revision

def DecisionContent.schema (d : DecisionContent) : Bool :=
  lengthWithin 1 8000 d.summary && itemsWithin 0 64 DecisionItem.schema d.items &&
    itemsWithin 0 64 DecisionQuestion.schema d.unresolvedQuestions &&
    itemsWithin 1 64 Source.schema d.sources &&
    itemsWithin 1 64 SourceRevision.schema d.sourceRevisions

def Criterion.schema (c : Criterion) : Bool :=
  markedId "criterion_" 64 c.criterionKey && lengthWithin 1 2000 c.description &&
    natWithin 1 100 c.ordinal

def SourceAction.schema (a : SourceAction) : Bool :=
  resultIdText a.resultId && markedId "next_" 64 a.nextActionKey

def NodeTask.schema : NodeTask → Bool
  | .new t => lengthWithin 1 160 t.title && lengthWithin 1 20000 t.goal &&
      markedId "member_" 128 t.ownerMemberId && itemsWithin 1 100 Criterion.schema t.criteria &&
      t.sourceAction.all SourceAction.schema
  | .existing t => taskIdText t.taskId && revisionWithin t.expectedTaskRevision &&
      revisionWithin t.definitionRevision && revisionWithin t.criteriaRevision

def RepositoryInput.schema (r : RepositoryInput) : Bool :=
  markedId "repo_" 128 r.repositoryId && markedId "repobind_" 128 r.bindingId &&
    gitObjectId r.baseCommit && markedId "grant_" 128 r.grantId &&
    revisionWithin r.grantRevision && markedId "profile_" 128 r.runtimeProfileId &&
    digestText r.runtimeProfileDigest

def ScopePolicy.schema (s : ScopePolicy) : Bool :=
  itemsWithin 0 64 pathPrefix s.allowedPaths && itemsWithin 0 64 pathPrefix s.forbiddenPaths

def BudgetPolicy.schema (b : BudgetPolicy) : Bool :=
  natWithin 1 1000 b.maxRunAttempts && natWithin 1 2592000 b.maxExecutionDurationSeconds

def VerificationProfile.schema (p : VerificationProfile) : Bool :=
  markedId "profile_" 128 p.profileId && revisionWithin p.revision && digestText p.digest

def ArtifactSlot.schema (s : ArtifactSlot) : Bool := stableKey s.slotKey

def PlanNode.schema (n : PlanNode) : Bool :=
  stableKey n.nodeKey && n.task.schema && markedId "agent_" 128 n.agentId &&
    n.repository.schema && n.scope.schema && n.budget.schema &&
    itemsWithin 0 16 VerificationProfile.schema n.verificationProfiles &&
    itemsWithin 0 32 ArtifactSlot.schema n.inputs && itemsWithin 1 32 ArtifactSlot.schema n.outputs

def EdgeBinding.schema (b : EdgeBinding) : Bool := stableKey b.outputSlot && stableKey b.inputSlot

def PlanEdge.schema (e : PlanEdge) : Bool :=
  stableKey e.edgeKey && stableKey e.fromNodeKey && stableKey e.toNodeKey &&
    itemsWithin 0 32 EdgeBinding.schema e.bindings

def ExternalInput.schema (i : ExternalInput) : Bool :=
  stableKey i.nodeKey && stableKey i.inputSlot && taskIdText i.sourceTaskId &&
    resultIdText i.sourceResultId && markedId "artifact_" 128 i.artifactId &&
    revisionWithin i.artifactRevision && digestText i.contentDigest

def IntegrationTarget.schema (t : IntegrationTarget) : Bool :=
  markedId "repo_" 128 t.repositoryId && targetRefText t.targetRef && gitObjectId t.expectedCommit

def PlanPolicy.schema (p : PlanPolicy) : Bool :=
  natWithin 1 8 p.maxConcurrency && p.budget.schema && p.requireHumanIntegrationApproval &&
    itemsWithin 0 8 IntegrationTarget.schema p.integrationTargets

/-- **The `planDefinition` schema.** -/
def PlanDefinition.schema (d : PlanDefinition) : Bool :=
  d.schemaVersion = "1.0" && taskIdText d.rootTaskId && lengthWithin 1 160 d.title &&
    d.decision.schema && itemsWithin 1 64 PlanNode.schema d.nodes &&
    itemsWithin 0 256 PlanEdge.schema d.edges &&
    itemsWithin 0 128 ExternalInput.schema d.externalInputs && d.policy.schema

end AgentRoom.Plan
