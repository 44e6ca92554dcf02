import Mathlib
import AgentRoom.Run.RetryLaw
import AgentRoom.Context.RollingMemory

/-!
# Agent mentions and handoffs

`resolveExactAgentMentions`: the Agents that a text names with an `@`. A name counts where it stands
between boundaries, and where names overlap the longest counts.

Texts are read by their characters. The source compares the lengths of names that stand at one
place, so that one is a prefix of the other, and counting code units puts them in the same order.

`HandoffService`: an Agent's Run hands its work to another Agent, on request or because its reply
mentions the Agent. A child inherits the trigger message, Task and deadline of its parent, and is
bounded by the chain of its parents.
-/

namespace AgentRoom

namespace Mentions

/-- `mentionBoundaryPunctuation`. -/
def boundaryPunctuation : List Char :=
  ['(', ')', '[', ']', '\x7b', '\x7d', '<', '>', ',', '.', '!', '?', ';', ':', '\'', '"',
    '，', '。', '！', '？', '；', '：', '（', '）', '【', '】', '《', '》']

def isMentionBoundary : Option Char → Bool
  | none => true
  | some c => isTrimmed c || c ∈ boundaryPunctuation

/-- The places of a token, from an index on. `skip` characters belong to the last token found. -/
def scan (token : List Char) : Option Char → Nat → Nat → List Char → List Nat
  | _, _, _, [] => []
  | _, index, skip + 1, c :: rest => scan token (some c) (index + 1) skip rest
  | before, index, 0, c :: rest =>
    if token.isPrefixOf (c :: rest) then
      let found := scan token (some c) (index + 1) (token.length - 1) rest
      if isMentionBoundary before && isMentionBoundary ((c :: rest).drop token.length).head? then
        index :: found
      else found
    else scan token (some c) (index + 1) 0 rest

def findMentionTokens (content name : String) : List Nat :=
  scan ('@' :: name.toList) none 0 0 content.toList

/-- Every place of every name. -/
def candidates (content : String) (names : List String) : List (Nat × String) :=
  names.flatMap fun name => (findMentionTokens content name).map (·, name)

/-- `longestMentionIndexes`: where the name first stands and no longer one does. -/
def longestMentionIndex (content : String) (names : List String) (name : String) : Option Nat :=
  let all := candidates content names
  let first := all.filterMap fun candidate =>
    if candidate.2 = name ∧ ∀ other ∈ all, other.1 = candidate.1 →
        other.2.length ≤ candidate.2.length then some candidate.1 else none
  first.min?

structure MentionableAgent where
  agentId : AgentId
  name : String

structure ExactAgentMentionResolution where
  agentIds : List AgentId
  ambiguousNames : List String
  usesAll : Bool

def containsExactAllMention (content : String) : Bool := findMentionTokens content "all" ≠ []

/-- In the order of the places. -/
def byIndex {α : Type} (found : List (α × Nat)) : List α :=
  (found.insertionSort fun a b => a.2 ≤ b.2).map (·.1)

/-- **`resolveExactAgentMentions`.** -/
def resolveExactAgentMentions (content : String) (agents knownAgents : List MentionableAgent) :
    ExactAgentMentionResolution :=
  if containsExactAllMention content then
    { agentIds := (agents.map (·.agentId)).eraseDups, ambiguousNames := [], usesAll := true }
  else
    let eligible := agents.map (·.agentId)
    let names := (knownAgents.map (·.name)).eraseDups
    let sameName := fun name => knownAgents.filter (·.name = name)
    let found := names.filterMap fun name =>
      (longestMentionIndex content names name).map fun index => (name, index)
    let matched := found.filterMap fun (name, index) =>
      match sameName name with
      | [agent] => if agent.agentId ∈ eligible then some (agent.agentId, index) else none
      | _ => none
    let ambiguous := found.filterMap fun (name, index) =>
      match sameName name with
      | [_] => none
      | sameNameAgents =>
        if sameNameAgents.any (·.agentId ∈ eligible) then some (name, index) else none
    { agentIds := byIndex matched, ambiguousNames := byIndex ambiguous, usesAll := false }

/-- The longest name at a place is the one mentioned. -/
example : (resolveExactAgentMentions "@Ada Byron, see @Ada" [⟨1, "Ada"⟩, ⟨2, "Ada Byron"⟩]
    [⟨1, "Ada"⟩, ⟨2, "Ada Byron"⟩]).agentIds = [2, 1] := by decide +kernel

end Mentions

/-! ## Handoffs -/

/-- What else is read of a Room. -/
structure RoomPolicy where
  teamId : TeamId
  allowAll : Bool
  maxAgentMentionDepth : Nat

/-- **Central with what handoffs read.** -/
structure Collaboration where
  lineage : Lineage
  policies : Table RoomId RoomPolicy
  /-- The Runs of Discussion turns. -/
  discussionRuns : List RunId
  /-- The replies whose routing is completed. -/
  routed : List (RunId × Nat)
  /-- History: the depth limit in force when a Run was handed off. -/
  limits : Table RunId Nat

structure McpPrincipal where
  agentId : AgentId
  teamId : TeamId

structure HandoffInput where
  parentRunId : RunId
  targetAgentId : AgentId
  instruction : String

def maximumUniqueAgents : Nat := 5

namespace Collaboration

/-- A program on Central and its lineage, on the whole. -/
def onLineage {α : Type} (x : Tx Lineage Err α) : Tx Collaboration Err α := fun s =>
  ((x s.lineage).1, { s with lineage := (x s.lineage).2 })

abbrev central (s : Collaboration) : Central := s.lineage.central

def isRoomAgent (s : Collaboration) (roomId : RoomId) (agentId : AgentId) : Bool :=
  (s.central.rooms.get roomId).any (agentId ∈ ·.roomAgents)

/-- The Agents of a Run and of its parents, up to the first. It gives up after as many steps as
there are Runs. -/
def ancestry (runs : Table RunId RunRecord) : Nat → RunRecord → Except Err (List AgentId)
  | 0, _ => throw "Handoff lineage does not end"
  | fuel + 1, run =>
    match run.parentRunId with
    | none => pure [run.targetAgentId]
    | some parentRunId =>
      match runs.get parentRunId with
      | none => throw "Handoff lineage is incomplete"
      | some parent => do
          let rest ← ancestry runs fuel parent
          pure (run.targetAgentId :: rest)

/-- Assignments are compared by the Task, then the Agent. -/
local instance lawfulBEq_assignment : LawfulBEq (TaskId × AgentId) := Prod.instLawfulBEq

/-- What `createChild` asks of the target. -/
def availableTarget (s : Collaboration) (parent : RunRecord) (targetAgentId : AgentId) :
    Except Err RoomPolicy := do
  let mismatch := "Handoff identity or target mismatch"
  let policy ← Except.demand (s.policies.get parent.roomId) mismatch
  let target ← Except.demand (s.central.agents.get targetAgentId) mismatch
  let task ← Except.demand (s.lineage.tasks.get parent.taskId) mismatch
  Except.require (target.enabled = true ∧ target.teamId = policy.teamId ∧
    s.isRoomAgent parent.roomId targetAgentId = true ∧
    (task.isDefault = true ∨ (parent.taskId, targetAgentId) ∈ s.lineage.assignments)) mismatch
  pure policy

/-- What `createChild` asks of the chain of parents. -/
def boundedLineage (s : Collaboration) (limit : Nat) (parent : RunRecord)
    (targetAgentId : AgentId) : Except Err Unit := do
  let agents ← ancestry s.central.runs s.central.runs.rows.length parent
  Except.require (agents.length - 1 < limit) s!"Handoff depth cannot exceed {limit}"
  Except.require (targetAgentId ∉ agents) "Handoff cannot revisit an Agent in its lineage"
  Except.require ((targetAgentId :: agents).dedup.length ≤ maximumUniqueAgents)
    s!"Handoff cannot exceed {maximumUniqueAgents} unique Agents"

def handoffRequest (parent : RunRecord) (targetAgentId : AgentId) (instruction : String)
    (runId : RunId) (now : Time) : RunRequest where
  runId
  traceId := parent.traceId
  roomId := parent.roomId
  taskId := parent.taskId
  triggerMessageId := parent.triggerMessageId
  requesterMemberId := parent.requesterMemberId
  targetAgentId
  parentRunId := some parent.runId
  instruction
  deadlineAt := if parent.deadlineAt ≤ now then now else parent.deadlineAt
  createdAt := now

variable (services : Services)

/-- **`createChild`.** -/
def createChild (parent : RunRecord) (targetAgentId : AgentId) (instruction : String)
    (now : Time) : Tx Collaboration Err (Option RunRecord) :=
  Tx.immediate do
    let s ← get
    let policy ← onLineage (Lineage.check (s.availableTarget parent targetAgentId))
    onLineage (Lineage.check
      (s.boundedLineage policy.maxAgentMentionDepth parent targetAgentId))
    let runId ← onLineage (Lineage.onCentral createOpaqueId)
    onLineage (Lineage.createRun services
      (handoffRequest parent targetAgentId instruction runId now))
    modify fun s => { s with limits := s.limits.put runId policy.maxAgentMentionDepth }
    return (← get).central.runs.get runId

/-- What `create` asks of the caller: the parent and the trimmed instruction. -/
def requested (s : Collaboration) (principal : McpPrincipal) (input : HandoffInput) :
    Except Err (RunRecord × String) := do
  let instruction := trim input.instruction
  Except.require (1 ≤ Context.utf16Length instruction ∧
    Context.utf16Length instruction ≤ 20000)
    "Handoff instruction must contain 1 to 20000 characters"
  let mismatch := "Handoff identity or target mismatch"
  let parent ← Except.demand (s.central.runs.get input.parentRunId) mismatch
  let target ← Except.demand (s.central.agents.get input.targetAgentId) mismatch
  let room ← Except.demand (s.central.rooms.get parent.roomId) mismatch
  let policy ← Except.demand (s.policies.get parent.roomId) mismatch
  Except.require (parent.targetAgentId = principal.agentId ∧ policy.teamId = principal.teamId ∧
    target.teamId = principal.teamId ∧ target.enabled = true ∧
    s.isRoomAgent parent.roomId target.agentId = true) mismatch
  Except.require (room.allowAgentMentions = true) "Room policy does not allow Agent handoffs"
  pure (parent, instruction)

/-- **`create`.** -/
def create (principal : McpPrincipal) (input : HandoffInput) (now : Time) :
    Tx Collaboration Err (Option RunRecord) := do
  let (parent, instruction) ← onLineage (Lineage.check ((← get).requested principal input))
  createChild services parent input.targetAgentId instruction now

/-- The Agents that a reply mentions, at most five. -/
def mentioned (s : Collaboration) (parent : RunRecord) (content : String) : List AgentId :=
  match s.central.rooms.get parent.roomId, s.policies.get parent.roomId with
  | some room, some policy =>
    if !room.allowAgentMentions then []
    else
      let agents := Table.orderBy (fun a => [a.createdAt, a.agentId]) s.central.agents.rows
      let knownAgents := agents.filter fun a =>
        a.teamId = policy.teamId && a.enabled && a.agentId ≠ parent.targetAgentId
      let mentionable := fun (a : AgentRecord) => Mentions.MentionableAgent.mk a.agentId a.name
      let resolution := Mentions.resolveExactAgentMentions content
        ((knownAgents.filter fun a => s.isRoomAgent parent.roomId a.agentId).map mentionable)
        (knownAgents.map mentionable)
      if resolution.usesAll && !policy.allowAll then []
      else resolution.agentIds.take maximumUniqueAgents
  | _, _ => []

/-- An error that leaves the reply as plain text. -/
def swallowed (e : Err) : Bool :=
  "Handoff ".toList.isPrefixOf e.toList ||
    decide ("UNIQUE constraint failed".toList <:+: e.toList)

/-- `findByTrigger` of the parent's trigger, and its child for the Agent. -/
def existingChild (s : Collaboration) (parent : RunRecord) (targetAgentId : AgentId) :
    Option RunRecord :=
  (Table.orderBy (fun r => [r.targetAgentId]) (s.central.runs.rows.filter
    (·.triggerMessageId = parent.triggerMessageId))).find? fun run =>
      run.parentRunId = some parent.runId && run.targetAgentId = targetAgentId

/-- One mention of a reply. -/
def handOff (parent : RunRecord) (content : String) (now : Time) (targetAgentId : AgentId) :
    Tx Collaboration Err (Option RunRecord) :=
  tryCatch (createChild services parent targetAgentId content now) fun e => do
    match (← get).existingChild parent targetAgentId with
    | some existing => pure (some existing)
    | none => if swallowed e then pure none else throw e

/-- **`createFromReply`.** -/
def createFromReply (parentRunId : RunId) (content : String) (now : Time) :
    Tx Collaboration Err (List RunRecord) := do
  let s ← get
  match s.central.runs.get parentRunId with
  | none => pure []
  | some parent =>
    let created ← Tx.forEach (handOff services parent content now) (s.mentioned parent content)
    pure (created.filterMap id)

/-- The replies of a Run that are still to be routed. -/
def pendingIntents (s : Collaboration) (runId : RunId) : List RunReplyRoutingIntent :=
  s.central.routingIntents.filter fun intent =>
    intent.parentRunId = runId && (intent.parentRunId, intent.replySequence) ∉ s.routed

/-- **`routeAgentReplyMentions`.** What it dispatches is left to other steps. -/
def routeAgentReplyMentions (runId : RunId) (now : Time) : Tx Collaboration Err (List Unit) := do
  let s ← get
  Tx.forEach (fun intent => do
    if intent.parentRunId ∈ (← get).discussionRuns then pure ()
    else do
      let _ ← createFromReply services runId intent.content now
    modify fun s => { s with routed := s.routed ++ [(intent.parentRunId, intent.replySequence)] })
    (s.pendingIntents runId)

/-- A `run.reply` of a Bridge: the reply is applied, then its mentions are routed. -/
def bridgeReply (principal : DevicePrincipal) (input : ReplyInput) (now : Time) :
    Tx Collaboration Err (List Unit) := do
  let applied ← onLineage (Lineage.onCentral
    (BridgeRunEventService.applyReply services principal input now))
  if applied.applied then routeAgentReplyMentions services applied.run.runId now else pure []

end Collaboration

/-- A step of a Team at work. -/
inductive CollaborationStep where
  /-- A Run without a handoff: of a member's message, a Discussion turn, an admission. -/
  | start (request : RunRequest)
  | handoff (principal : McpPrincipal) (input : HandoffInput) (now : Time)
  /-- The mentions of a reply, whichever it is and however often. -/
  | mentions (parentRunId : RunId) (content : String) (now : Time)
  | route (runId : RunId) (now : Time)
  | reply (principal : DevicePrincipal) (input : ReplyInput) (now : Time)
  | acknowledge (input : AcknowledgeInput)
  | retry (input : RetryInput)
  /-- A step of Central that creates no Run, with any change of Tasks, Rooms, policies, Agents and
  memberships. -/
  | elsewhere (label : Label)

namespace Collaboration

/-- Only a Discussion turn has a parent besides a child that was handed its work; the parent is
there. -/
def Starts (s : Collaboration) (request : RunRequest) : Prop :=
  ∀ parentRunId, request.parentRunId = some parentRunId →
    (∃ parent, s.central.runs.get parentRunId = some parent) ∧ request.orchestrationKey ≠ none

end Collaboration

/-- **A Team at work.** -/
def collaboration (services : Services) : System Collaboration CollaborationStep where
  init s := (central services).init s.central
  step i s s' := match i with
    | .start request => s.Starts request ∧
        s' = (Collaboration.onLineage (Lineage.onCentral
          (RunRepository.createRuns services [request])) s).2
    | .handoff principal input now => s' = (Collaboration.create services principal input now s).2
    | .mentions parentRunId content now =>
      s' = (Collaboration.createFromReply services parentRunId content now s).2
    | .route runId now => s' = (Collaboration.routeAgentReplyMentions services runId now s).2
    | .reply principal input now =>
      s' = (Collaboration.bridgeReply services principal input now s).2
    | .acknowledge input =>
      s' = (Collaboration.onLineage (Lineage.acknowledgeAmbiguity input) s).2
    | .retry input => s' = (Collaboration.onLineage (Lineage.createRetry services input) s).2
    | .elsewhere label => (central services).step label s.central s'.central ∧
        s'.limits = s.limits ∧
        ∀ id, (s'.central.runs.get id).isSome → (s.central.runs.get id).isSome

end AgentRoom
