import AgentRoom.Context.Planner

/-!
# Runtime sessions of the Bridge

The binding a Bridge keeps for a Task's native session, the key it is kept
under, and the three functions that fit a delivery to it:
`contextDeltaForSession`, `hasResultEvidenceCursorGap` and
`prepareRoomContextForSession`.

Cursors and revisions are never negative here: the store refuses a binding with a
negative one, and a delivery of this server has none.
-/

namespace AgentRoom.Context

/-- The local configuration of an Agent, as far as a session depends on it. -/
structure RuntimeConfig where
  workspaceFingerprint : String
  configFingerprint : String
  /-- `CodexSessionConflictStartNew`. -/
  startNewOnConflict : Bool

inductive RuntimeKind where
  | codex | pi
  deriving DecidableEq

/-- `RuntimeSessionKey`, without the Room and the schema version. -/
structure RuntimeSessionKey where
  runtimeKind : RuntimeKind
  taskId : TaskId
  agentId : AgentId
  workspaceFingerprint : String
  configFingerprint : String
  deriving DecidableEq

/-- A native session or thread, by its id. -/
abbrev NativeId := String

/-- **`RuntimeSessionBinding`**, without its key and times. -/
structure RuntimeSessionBinding where
  sessionId : NativeId := ""
  lastRoomSequence : Nat := 0
  roomMemoryRevision : Nat := 0
  taskMemoryRevision : Nat := 0
  roomLongTermMemoryRevision : Nat := 0
  taskLongTermMemoryRevision : Nat := 0
  resultEvidenceRevision : Nat := 0
  lastRunId : Option RunId := none

/-- What `planRuntimeSession` returns for a logical Task Session. -/
structure RuntimeSessionPlan where
  key : RuntimeSessionKey
  scopeId : String
  contextCursor : Nat
  resumePolicy : ResumePolicy

/-- `planRuntimeSession`. `agentRuntimeScopeId` digests the configuration. -/
def planRuntimeSession (agentRuntimeScopeId : RuntimeKind → RuntimeConfig → String)
    (runtimeKind : RuntimeKind) (configuration : RuntimeConfig) (run : RunRequested) :
    Except Err RuntimeSessionPlan :=
  let scopeId := agentRuntimeScopeId runtimeKind configuration
  if run.session.runtimeScopeId.any (· ≠ scopeId) then
    throw "logical Task Session scope does not match the published Runtime"
  else
    pure
      { key :=
          { runtimeKind, taskId := run.taskId, agentId := run.targetAgentId
            workspaceFingerprint := configuration.workspaceFingerprint
            configFingerprint := configuration.configFingerprint }
        scopeId
        contextCursor := run.session.contextCursor
        resumePolicy := run.session.resumePolicy }

/-! ## What is left of a plan for a session -/

def contextAfterCursor (messages : List ContextMessage) (cursor : Nat) : List ContextMessage :=
  messages.filter (cursor < ·.sequence)

/-- A projection the session already has, unless it is a historical one. -/
def newerProjection (projection : Option MemoryProjection) (revision : Nat) :
    Option MemoryProjection :=
  projection.filter fun p => p.historical || revision < p.revision

/-- The evidence page a session is still to be given. -/
def newerEvidence (evidence : Option EvidencePage) (binding : RuntimeSessionBinding) :
    Option EvidencePage :=
  evidence.filter fun page =>
    match page.deliveryKind with
    | .delta =>
      page.fromRevision = binding.resultEvidenceRevision &&
        binding.resultEvidenceRevision < page.throughRevision
    | .bootstrap => binding.resultEvidenceRevision < page.revision

/-- **`contextDeltaForSession`.** -/
def contextDeltaForSession (run : RunRequested) (binding : RuntimeSessionBinding) :
    RunRequested :=
  { run with
    contextMessages := contextAfterCursor run.contextMessages binding.lastRoomSequence
    contextPlan :=
      { roomMemory := newerProjection run.contextPlan.roomMemory binding.roomMemoryRevision
        taskMemory := newerProjection run.contextPlan.taskMemory binding.taskMemoryRevision
        roomLongTermMemory :=
          run.contextPlan.roomLongTermMemory.filter (binding.roomLongTermMemoryRevision < ·)
        taskLongTermMemory :=
          run.contextPlan.taskLongTermMemory.filter (binding.taskLongTermMemoryRevision < ·)
        resultEvidence := newerEvidence run.contextPlan.resultEvidence binding } }

/-- **`hasResultEvidenceCursorGap`.** -/
def hasResultEvidenceCursorGap (run : RunRequested) (binding : RuntimeSessionBinding) : Bool :=
  run.contextPlan.resultEvidence.any fun page =>
    page.deliveryKind = .delta && binding.resultEvidenceRevision < page.throughRevision &&
      page.fromRevision ≠ binding.resultEvidenceRevision

/-! ## Room context -/

/-- White space as Go's `unicode.IsSpace` has it: not JavaScript's, which lacks `U+0085` and has
`U+FEFF`. -/
def isGoSpace (c : Char) : Bool :=
  c.toNat ∈ [0x9, 0xA, 0xB, 0xC, 0xD, 0x20, 0x85, 0xA0, 0x1680, 0x2028, 0x2029, 0x202F, 0x205F,
    0x3000] || (0x2000 ≤ c.toNat && c.toNat ≤ 0x200A)

/-- `strings.TrimSpace(text) == ""`. -/
def isGoBlank (text : String) : Bool := text.toList.all isGoSpace

def lowerHexDigest (value : String) : Bool := runtimeScopePattern value

/-- The bundle is of the current request. -/
def requestMatches (run : RunRequested) (bundle : ContextBundle) : Bool :=
  1 ≤ bundle.targetThroughSequence &&
    bundle.targetThroughSequence = run.session.contextCursor &&
    bundle.priorContextThroughSequence = bundle.targetThroughSequence - 1 &&
    bundle.requestMessageId = run.triggerMessageId && run.contextMessages.isEmpty

/-- The raw tail is within its bounds. -/
def tailBounded (bundle : ContextBundle) : Bool :=
  bundle.rawTail.throughSequenceInclusive = bundle.priorContextThroughSequence &&
    bundle.rawTail.messageCount = bundle.rawTail.messages.length &&
    bundle.rawTail.messageCount ≤ 12 && bundle.rawTail.utf8Bytes ≤ 10240

/-- The checkpoint's own conditions, its summary's blankness apart. -/
def checkpointBounded (bundle : ContextBundle) (checkpoint : BundleCheckpoint) : Bool :=
  1 ≤ checkpoint.throughSequence &&
    checkpoint.fromSequenceExclusive < checkpoint.throughSequence &&
    checkpoint.throughSequence ≤ bundle.priorContextThroughSequence &&
    checkpoint.throughSequence =
      checkpoint.fromSequenceExclusive + checkpoint.sourceMessageCount &&
    checkpoint.summary.length ≤ 12000 &&
    !checkpoint.provenanceMessageIds.isEmpty && checkpoint.provenanceMessageIds.length ≤ 64 &&
    lowerHexDigest checkpoint.sourceDigest

/-- The raw tail goes on where the checkpoint ends. -/
def tailContinues (bundle : ContextBundle) : Bool :=
  bundle.rawTail.fromSequenceExclusive = (bundle.checkpoint.map (·.throughSequence)).getD 0 &&
    bundle.rawTail.throughSequenceInclusive =
      bundle.rawTail.fromSequenceExclusive + bundle.rawTail.messageCount

/-- The raw tail has neither a gap nor an overlap. -/
def tailExact (run : RunRequested) (tail : BundleTail) : Bool :=
  tail.messages.map (·.sequence) =
      List.range' (tail.fromSequenceExclusive + 1) tail.messages.length &&
    tail.messages.all (·.messageId ≠ run.triggerMessageId)

/-- The conditions on the bundle's checkpoint. -/
def validateBundleCheckpoint (bundle : ContextBundle) : Except Err Unit :=
  match bundle.checkpoint with
  | some checkpoint =>
    if !checkpointBounded bundle checkpoint || isGoBlank checkpoint.summary then
      throw "Room context checkpoint is invalid"
    else if ¬checkpoint.provenanceMessageIds.Nodup then
      throw "Room context checkpoint provenance is duplicated"
    else pure ()
  | none =>
    if bundle.priorContextThroughSequence ≠ 0 then
      throw "Room context bundle omitted its checkpoint"
    else pure ()

/-- The conditions on the bundle's raw tail, past its bounds. -/
def validateBundleTail (run : RunRequested) (bundle : ContextBundle) : Except Err Unit :=
  if !tailContinues bundle then
    throw "Room context checkpoint and raw tail are discontinuous"
  else if !tailExact run bundle.rawTail then
    throw "Room context raw tail has a gap or overlap"
  else if ¬(bundle.rawTail.messages.map (·.messageId)).Nodup then
    throw "Room context raw tail repeats a Message"
  else if contentBytes bundle.rawTail.messages ≠ bundle.rawTail.utf8Bytes then
    throw "Room context raw tail byte count does not match"
  else pure ()

/-- The conditions `prepareRoomContextForSession` puts on a bundle, in its order. -/
def validateRoomContext (run : RunRequested) (bundle : ContextBundle) : Except Err Unit :=
  if !requestMatches run bundle then
    throw "Room context bundle does not match the current request"
  else if !tailBounded bundle then throw "Room context raw tail is outside its bounds"
  else do
    validateBundleCheckpoint bundle
    validateBundleTail run bundle

/-- Whether a session is given the bundle's checkpoint. -/
def includesCheckpoint (bundle : ContextBundle) (baseCursor : Nat)
    (disposition : SessionDisposition) : Bool :=
  bundle.checkpoint.any fun checkpoint =>
    disposition ≠ .resumed || baseCursor < checkpoint.throughSequence

/-- The part of a bundle a session is given. -/
def selectRoomContext (bundle : ContextBundle) (baseCursor : Nat)
    (disposition : SessionDisposition) : ContextBundle :=
  if includesCheckpoint bundle baseCursor disposition then bundle
  else
    let checkpointThrough := (bundle.checkpoint.map (·.throughSequence)).getD 0
    let selectedFrom := min (max baseCursor checkpointThrough)
      bundle.rawTail.throughSequenceInclusive
    let selected := bundle.rawTail.messages.filter (selectedFrom < ·.sequence)
    { bundle with
      checkpoint := none
      rawTail :=
        { fromSequenceExclusive := selectedFrom
          throughSequenceInclusive := bundle.rawTail.throughSequenceInclusive
          messageCount := selected.length
          utf8Bytes := contentBytes selected
          messages := selected } }

/-- The receipt of a selection. -/
def selectionReceipt (selected : ContextBundle) (baseCursor : Nat) : RoomContextConsumption where
  baseContextCursor := baseCursor
  checkpointId := selected.checkpoint.map (·.checkpointId)
  rawFromSequenceExclusive := selected.rawTail.fromSequenceExclusive
  rawThroughSequenceInclusive := selected.rawTail.throughSequenceInclusive
  rawMessageCount := selected.rawTail.messageCount
  coverageThroughSequence := max baseCursor selected.targetThroughSequence

/-- The cursor a selection starts from. -/
def baseCursor (binding : RuntimeSessionBinding) (disposition : SessionDisposition) : Nat :=
  if disposition = .resumed then binding.lastRoomSequence else 0

/-- **`prepareRoomContextForSession`.** -/
def prepareRoomContextForSession (run : RunRequested) (binding : RuntimeSessionBinding)
    (disposition : SessionDisposition) :
    Except Err (RunRequested × Option RoomContextConsumption) :=
  match run.roomContextBundle with
  | none => pure (run, none)
  | some bundle => do
      validateRoomContext run bundle
      let selected := selectRoomContext bundle (baseCursor binding disposition) disposition
      pure ({ run with roomContextBundle := some selected },
        some (selectionReceipt selected (baseCursor binding disposition)))

/-! ## Revisions and the status -/

/-- `contextRevisions`, of a projection. -/
def projectionRevision (projection : Option MemoryProjection) : Nat :=
  ((projection.filter (!·.historical)).map (·.revision)).getD 0

/-- The revisions a prompt brings a session to: `contextRevisions` and
`longTermMemoryRevisions`. -/
structure PromptRevisions where
  roomMemory : Nat
  taskMemory : Nat
  roomLongTermMemory : Nat
  taskLongTermMemory : Nat
  resultEvidence : Nat

def promptRevisions (run : RunRequested) : PromptRevisions where
  roomMemory := projectionRevision run.contextPlan.roomMemory
  taskMemory := projectionRevision run.contextPlan.taskMemory
  roomLongTermMemory := run.contextPlan.roomLongTermMemory.getD 0
  taskLongTermMemory := run.contextPlan.taskLongTermMemory.getD 0
  resultEvidence := (run.contextPlan.resultEvidence.map (·.throughRevision)).getD 0

/-- What both adapters write into a binding once a prompt was consumed. -/
def RuntimeSessionBinding.consume (binding : RuntimeSessionBinding) (contextCursor : Nat)
    (runId : RunId) (revisions : PromptRevisions) : RuntimeSessionBinding :=
  { binding with
    lastRoomSequence := max binding.lastRoomSequence contextCursor
    lastRunId := some runId
    roomMemoryRevision := max binding.roomMemoryRevision revisions.roomMemory
    taskMemoryRevision := max binding.taskMemoryRevision revisions.taskMemory
    roomLongTermMemoryRevision :=
      max binding.roomLongTermMemoryRevision revisions.roomLongTermMemory
    taskLongTermMemoryRevision :=
      max binding.taskLongTermMemoryRevision revisions.taskLongTermMemory
    resultEvidenceRevision := max binding.resultEvidenceRevision revisions.resultEvidence }

def sessionStatus (disposition : SessionDisposition) (contextCursor : Nat)
    (runtimeScopeId : String) (resultEvidenceRevision : Nat)
    (roomContextConsumption : Option RoomContextConsumption) : RuntimeSession where
  disposition
  contextCursor
  runtimeScopeId := some runtimeScopeId
  resultEvidenceRevision := some resultEvidenceRevision
  roomContextConsumption

end AgentRoom.Context
