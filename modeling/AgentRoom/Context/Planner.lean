import AgentRoom.Context.RollingMemory

/-!
# What a delivery carries

`ContextPlanner.planRoomContextBundle` and `planResultEvidence`, and the payload
`DeliveryService.ensure` freezes for a Run: the Room context bundle, when one is
planned, takes the place of the context messages.

The memory projections are planned elsewhere and only their revisions are read
later, so a payload carries those.

A checkpoint summarises its own interval and, when it is incremental, what its
parent summarises: the reducer was given the parent's summary. Every row of the
table covers the Room from its first message on, and is within the bounds a
Bridge checks. Both are kept by every drain of the reducer.
-/

namespace AgentRoom.Context

/-! ## The Room context bundle -/

/-- The checkpoint of a bundle. -/
structure BundleCheckpoint where
  checkpointId : Nat
  fromSequenceExclusive : Nat
  throughSequence : Nat
  summary : String
  sourceMessageCount : Nat
  sourceDigest : String
  promptVersion : Nat
  modelFingerprint : String
  buildKind : RollingRoomBuildKind
  provenanceMessageIds : List MessageId

/-- The raw tail of a bundle. -/
structure BundleTail where
  fromSequenceExclusive : Nat
  throughSequenceInclusive : Nat
  messageCount : Nat
  utf8Bytes : Nat
  messages : List ContextMessage

/-- **`PlannedRoomContextBundle`.** -/
structure ContextBundle where
  targetThroughSequence : Nat
  priorContextThroughSequence : Nat
  requestMessageId : MessageId
  checkpoint : Option BundleCheckpoint
  rawTail : BundleTail

def rawRoomTailMessageLimit : Nat := 12

def rawRoomTailUtf8ByteLimit : Nat := 10240

/-- The bytes of the messages' contents. -/
def contentBytes (messages : List ContextMessage) : Nat :=
  (messages.map (·.content.utf8ByteSize)).sum

/-- `contextMessage`, without the sender's display name. -/
def contextMessage (message : MessageRecord) : ContextMessage where
  messageId := message.messageId
  sequence := message.sequence
  senderId := message.senderId
  content := message.content

/-- The checkpoint as a bundle carries it. -/
def bundleCheckpoint (checkpoint : RollingRoomCheckpoint) : BundleCheckpoint where
  checkpointId := checkpoint.checkpointId
  fromSequenceExclusive := checkpoint.inputFromSequenceExclusive
  throughSequence := checkpoint.throughSequence
  summary := checkpoint.summary
  sourceMessageCount := checkpoint.sourceMessageCount
  sourceDigest := checkpoint.sourceDigest
  promptVersion := checkpoint.promptVersion
  modelFingerprint := checkpoint.modelFingerprint
  buildKind := checkpoint.buildKind
  provenanceMessageIds := checkpoint.provenance

/-- The bundle of a checkpoint and the messages after it. -/
def makeBundle (targetThroughSequence : Nat) (requestMessageId : MessageId)
    (checkpoint : RollingRoomCheckpoint) (messages : List MessageRecord) : ContextBundle where
  targetThroughSequence
  priorContextThroughSequence := targetThroughSequence - 1
  requestMessageId
  checkpoint := some (bundleCheckpoint checkpoint)
  rawTail :=
    { fromSequenceExclusive := checkpoint.throughSequence
      throughSequenceInclusive := targetThroughSequence - 1
      messageCount := messages.length
      utf8Bytes := contentBytes (messages.map contextMessage)
      messages := messages.map contextMessage }

/-- **`planRoomContextBundle`.** -/
def planRoomContextBundle (log : RoomLog) (memory : RollingMemory) (targetThroughSequence : Nat)
    (requestMessageId : MessageId) (checkpointCreatedAtOrBefore : Option Time)
    (excludedMessageIds : List MessageId) : Option ContextBundle :=
  if excludedMessageIds ≠ [] then none
  else if memory.state.mode ≠ .ready then none
  else if targetThroughSequence - 1 < 1 then none
  else
    match memory.latestAtOrBefore (targetThroughSequence - 1) checkpointCreatedAtOrBefore with
    | none => none
    | some checkpoint =>
      let messages := log.listMessagesRange checkpoint.throughSequence
        (targetThroughSequence - 1) (rawRoomTailMessageLimit + 1)
      if checkpoint.throughSequence + messages.length ≠ targetThroughSequence - 1 ∨
          rawRoomTailMessageLimit < messages.length ∨
          ¬Consecutive checkpoint.throughSequence messages ∨
          messages.any (·.messageId = requestMessageId) then none
      else if rawRoomTailUtf8ByteLimit < contentBytes (messages.map contextMessage) then none
      else some (makeBundle targetThroughSequence requestMessageId checkpoint messages)

/-! ## Result evidence -/

inductive EvidenceDeliveryKind where
  | delta | bootstrap
  deriving DecidableEq

/-- One page of result evidence. An Artifact is named by the revision it took. -/
structure EvidencePage where
  revision : Nat
  deliveryKind : EvidenceDeliveryKind
  fromRevision : Nat
  throughRevision : Nat
  hasMore : Bool
  artifactRefs : List Nat

/-- `listAfterRevision`, of a Task whose Artifacts took the revisions `1` to `published`. -/
def listAfterRevision (published afterRevision limit throughRevision : Nat) : List Nat :=
  ((List.range' 1 published).filter fun r => afterRevision < r ∧ r ≤ throughRevision).take limit

/-- `listForTask`: the newest first. -/
def listForTask (published limit throughRevision : Nat) : List Nat :=
  (((List.range' 1 published).filter (· ≤ throughRevision)).reverse).take limit

/-- **`planResultEvidence`.** -/
def planResultEvidence (published : Nat) (afterRevision : Option Nat) (throughRevision : Nat) :
    Option EvidencePage :=
  if throughRevision = 0 then none
  else
    match afterRevision.filter (· ≤ throughRevision) with
    | some afterRevision =>
      let artifacts := listAfterRevision published afterRevision 20 throughRevision
      match artifacts.getLast? with
      | none => none
      | some delivered =>
        some
          { revision := delivered, deliveryKind := .delta, fromRevision := afterRevision
            throughRevision := delivered, hasMore := delivered < throughRevision
            artifactRefs := artifacts }
    | none =>
      let artifacts := (listForTask published 20 throughRevision).reverse
      match artifacts.head? with
      | none => none
      | some first =>
        some
          { revision := throughRevision, deliveryKind := .bootstrap
            fromRevision := first - 1, throughRevision, hasMore := false
            artifactRefs := artifacts }

/-! ## The payload -/

/-- A memory projection: its revision, and whether it is a historical one. -/
structure MemoryProjection where
  revision : Nat
  historical : Bool

/-- `contextPlan`. Long-term memory is named by its revision. -/
structure PayloadPlan where
  roomMemory : Option MemoryProjection
  taskMemory : Option MemoryProjection
  roomLongTermMemory : Option Nat
  taskLongTermMemory : Option Nat
  resultEvidence : Option EvidencePage

inductive ResumePolicy where
  | resumeOrStart | startNew
  deriving DecidableEq

/-- `payload.session`, whose scope is always a Task. -/
structure PayloadSession where
  resumePolicy : ResumePolicy
  contextCursor : Nat
  runtimeScopeId : Option String

/-- **The body of `run.requested`**, as far as a Runtime session reads it. -/
structure RunRequested where
  runId : RunId
  taskId : TaskId
  session : PayloadSession
  triggerMessageId : MessageId
  targetAgentId : AgentId
  contextPlan : PayloadPlan
  contextMessages : List ContextMessage
  roomContextBundle : Option ContextBundle

/-- What `ensure` reads of the Run and its Agent. -/
structure DeliveryRequest where
  runId : RunId
  taskId : TaskId
  targetAgentId : AgentId
  trigger : MessageRecord
  runtimeScopeId : Option String
  supportsRoomContextCoverage : Bool
  /-- `captured_at` of the Run's context fence, when it was captured. -/
  fenceCapturedAt : Option Time
  excludedMessageIds : List MessageId

/-- The payload `ensure` freezes. -/
def deliveryPayload (log : RoomLog) (memory : RollingMemory) (request : DeliveryRequest)
    (contextPlan : PayloadPlan) (contextMessages : List ContextMessage) : RunRequested :=
  let planned := planRoomContextBundle log memory request.trigger.sequence
    request.trigger.messageId request.fenceCapturedAt request.excludedMessageIds
  let roomContextBundle := if request.supportsRoomContextCoverage then planned else none
  { runId := request.runId
    taskId := request.taskId
    session :=
      { resumePolicy := .resumeOrStart
        contextCursor := request.trigger.sequence
        runtimeScopeId := request.runtimeScopeId }
    triggerMessageId := request.trigger.messageId
    targetAgentId := request.targetAgentId
    contextPlan
    contextMessages := if roomContextBundle.isSome then [] else contextMessages
    roomContextBundle }

/-! ## What a checkpoint covers -/

/-- The sequences a checkpoint's summary speaks for. -/
inductive Summarises (rows : List RollingRoomCheckpoint) : RollingRoomCheckpoint → Nat → Prop where
  | own {c s} (above : c.inputFromSequenceExclusive < s) (within : s ≤ c.throughSequence) :
      Summarises rows c s
  | parent {c p s} (row : p ∈ rows) (kind : c.buildKind = .incremental)
      (link : c.parentCheckpointId = some p.checkpointId) (rest : Summarises rows p s) :
      Summarises rows c s

theorem Summarises.mono {rows rows' : List RollingRoomCheckpoint} (hsub : rows ⊆ rows')
    {c : RollingRoomCheckpoint} {s : Nat} (h : Summarises rows c s) : Summarises rows' c s := by
  induction h with
  | own above within => exact .own above within
  | parent row kind link _ ih => exact .parent (hsub row) kind link ih

/-- **A row within a Bridge's bounds.** -/
structure CheckpointSound (c : RollingRoomCheckpoint) : Prop where
  interval : c.throughSequence = c.inputFromSequenceExclusive + c.sourceMessageCount
  proper : 0 < c.sourceMessageCount
  summary : c.summary.length ≤ 12000
  named : c.provenance ≠ []
  bounded : c.provenance.length ≤ 64
  distinct : c.provenance.Nodup
  digest : RollingMemory.digestPattern c.sourceDigest = true

/-- Every row is sound and covers its Room from the first message on. -/
structure RowsInv (rows : List RollingRoomCheckpoint) : Prop where
  sound : ∀ c ∈ rows, CheckpointSound c
  covers : ∀ c ∈ rows, ∀ s, 1 ≤ s → s ≤ c.throughSequence → Summarises rows c s

theorem rowsInv_nil : RowsInv [] := ⟨by simp, by simp⟩

/-! ## Text that only gets shorter -/

theorem length_dropWhile_le (p : Char → Bool) (text : List Char) :
    (text.dropWhile p).length ≤ text.length :=
  (List.dropWhile_sublist p).length_le

theorem trim_length_le (text : String) : (trim text).length ≤ text.length := by
  have h1 := length_dropWhile_le isTrimmed text.toList
  have h2 := length_dropWhile_le isTrimmed (text.toList.dropWhile isTrimmed).reverse
  rw [List.length_reverse] at h2
  rw [← String.length_toList (s := text)]
  simp only [trim, String.length_ofList, List.length_reverse]
  omega

theorem length_le_utf16Length (text : String) : text.length ≤ utf16Length text := by
  rw [← String.length_toList, utf16Length]
  induction text.toList with
  | nil => simp
  | cons c rest ih =>
    have hunit : 1 ≤ (Utf16.units c).length := by
      unfold Utf16.units
      split <;> simp
    rw [Utf16.encode_cons, List.length_append, List.length_cons]
    omega

/-! ## What a commit adds -/

theorem validateReducerOutput_ok {output : ReducerOutput} {messages : List MessageRecord}
    (h : validateReducerOutput output messages = .ok ()) :
    utf16Length output.summary ≤ 12000 ∧ output.provenanceMessageIds ≠ [] ∧
      output.provenanceMessageIds.length ≤ 64 ∧ output.provenanceMessageIds.Nodup := by
  unfold validateReducerOutput at h
  split at h
  · cases h
  · rename_i hbounds
    push Not at hbounds
    obtain ⟨-, hsummary, -, -, hne, hmany, hnodup⟩ := hbounds
    exact ⟨hsummary, hne, hmany, hnodup⟩

variable {db : RollingMemory} {row : RollingRoomCheckpoint}

theorem contiguousInsert_cases (h : db.contiguousInsert row = true) :
    row.inputFromSequenceExclusive = 0 ∨
      ∃ parent ∈ db.checkpoints, row.buildKind = .incremental ∧
        row.parentCheckpointId = some parent.checkpointId ∧
        parent.throughSequence = row.inputFromSequenceExclusive := by
  unfold RollingMemory.contiguousInsert at h
  split at h
  · exact .inl (of_decide_eq_true h)
  · exact .inl (of_decide_eq_true h)
  · rename_i parentId hkind hparent
    obtain ⟨parent, hmem, hrow⟩ := List.any_eq_true.mp h
    simp only [Bool.and_eq_true, decide_eq_true_eq] at hrow
    exact .inr ⟨parent, hmem, hkind, by rw [hparent, hrow.1], hrow.2⟩

/-- **What a commit does**: one row, contiguous and of its own interval, is added. -/
theorem commitCheckpoint_ok {db' : RollingMemory} {generation leaseToken : Nat} {now : Time}
    (h : db.commitCheckpoint row generation leaseToken now = .ok db') :
    db'.checkpoints = db.checkpoints ++ [row] ∧
      row.throughSequence = row.inputFromSequenceExclusive + row.sourceMessageCount ∧
      0 < row.sourceMessageCount ∧ RollingMemory.digestPattern row.sourceDigest = true ∧
      db.contiguousInsert row = true := by
  unfold RollingMemory.commitCheckpoint at h
  split_ifs at h with hlease hwater hincremental hrebase hcount
  rw [not_not] at hcount
  unfold RollingMemory.insertCheckpoint at h
  split_ifs at h with hprovenance hdigest hcontiguous hrow
  · cases h
  · cases h
  · cases h
  · cases h
  · cases h
    simp only [Bool.not_eq_true, Bool.not_eq_false'] at hdigest hcontiguous hrow
    refine ⟨rfl, hcount, ?_, by simpa using hdigest, by simpa using hcontiguous⟩
    simp only [RollingMemory.rowAccepted, Bool.and_eq_true, decide_eq_true_eq] at hrow
    omega

/-- A new sound row keeps the table's invariant. -/
theorem rowsInv_snoc (h : RowsInv db.checkpoints) (hrow : CheckpointSound row)
    (hcontiguous : db.contiguousInsert row = true) : RowsInv (db.checkpoints ++ [row]) where
  sound := by
    intro c hc
    rcases List.mem_append.mp hc with hold | hnew
    · exact h.sound c hold
    · rw [List.mem_singleton.mp hnew]
      exact hrow
  covers := by
    have hsub : db.checkpoints ⊆ db.checkpoints ++ [row] := List.subset_append_left _ _
    intro c hc s hlow hhigh
    rcases List.mem_append.mp hc with hold | hnew
    · exact (h.covers c hold s hlow hhigh).mono hsub
    · rw [List.mem_singleton.mp hnew] at hhigh ⊢
      by_cases habove : row.inputFromSequenceExclusive < s
      · exact .own habove hhigh
      · -- below its own interval the row's parent speaks for it
        rcases contiguousInsert_cases hcontiguous with hzero | ⟨parent, hmem, hkind, hlink, hend⟩
        · omega
        · exact .parent (hsub hmem) hkind hlink
            ((h.covers parent hmem s hlow (by omega)).mono hsub)

/-- A committed answer adds one sound row. -/
theorem commitAnswer_ok {db' : RollingMemory} {job : DrainJob} {answer : DrainAnswer}
    (h : commitAnswer db job answer = .ok db') :
    ∃ row, db'.checkpoints = db.checkpoints ++ [row] ∧ CheckpointSound row ∧
      db.contiguousInsert row = true := by
  unfold commitAnswer at h
  split at h
  · cases h
  · rename_i output hout
    cases hvalid : validateReducerOutput output job.work.messages with
    | error e => rw [hvalid] at h; cases h
    | ok u =>
      rw [hvalid] at h
      obtain ⟨hsummary, hne, hmany, hnodup⟩ := validateReducerOutput_ok hvalid
      obtain ⟨hrows, hinterval, hproper, hdigest, hcontiguous⟩ := commitCheckpoint_ok h
      refine ⟨_, hrows, ⟨hinterval, hproper, ?_, hne, hmany, hnodup, hdigest⟩, hcontiguous⟩
      have h1 := redactSensitiveText_length_le (trim output.summary)
      have h2 := trim_length_le output.summary
      have h3 := length_le_utf16Length output.summary
      simp only [DrainJob.checkpoint]
      omega

/-- **A drain keeps the rows' invariant and every row.** -/
theorem finishDrain_rows (job : DrainJob) (answer : DrainAnswer) (h : RowsInv db.checkpoints) :
    RowsInv (finishDrain db job answer).checkpoints ∧
      db.checkpoints ⊆ (finishDrain db job answer).checkpoints := by
  unfold finishDrain
  split
  · rename_i db' hcommitted
    obtain ⟨row, hrows, hsound, hcontiguous⟩ := commitAnswer_ok hcommitted
    rw [hrows]
    exact ⟨rowsInv_snoc h hsound hcontiguous, List.subset_append_left _ _⟩
  · have hfailed : (db.recordFailure job.lease.generation job.leaseToken).checkpoints =
        db.checkpoints := by
      unfold RollingMemory.recordFailure
      split <;> rfl
    rw [hfailed]
    exact ⟨h, List.Subset.refl _⟩

theorem beginDrain_rows (log : RoomLog) (db : RollingMemory) (rebase : Bool) (leaseToken : Nat)
    (now leaseExpiresAt : Time) :
    (beginDrain log db rebase leaseToken now leaseExpiresAt).1.checkpoints = db.checkpoints := by
  unfold beginDrain
  split
  · rfl
  · dsimp only
    split
    · unfold RollingMemory.recordFailure
      split <;> rfl
    · rfl

end AgentRoom.Context
