import AgentRoom.Consent.Dispatch

/-!
# The Bridge connection registry

`BridgeConnectionRegistry`: one connection for each Device, replaced by a later epoch, and the
guard of what is sent over it. What the guard compares of a grant and a manifest is modelled with
the governed dispatch.

A registration creates a connection object; `id` is its identity. The log is the history of what
the registry did to its connections and their sockets, in order.
-/

namespace AgentRoom.Connections

open Consent (Dates ExecutionGrantSummary GovernedCapability Operation)
open Execution (Manifest)
open Workspace (Platform)

abbrev ConnectionId := Nat

structure Connection (Socket : Type) where
  id : ConnectionId
  epoch : Int
  socket : Socket
  supportsAgentProvisioning : Bool
  governedExecution : Option GovernedCapability
  governedExecutionAgents : String → Option GovernedCapability

/-! ## Messages -/

/-- A member of an object: absent, there but no object, or an object. -/
inductive Member (α : Type) where
  | absent
  | other
  | object (value : α)
  deriving DecidableEq

/-- The `execution` of a context manifest. An object that is no manifest is `other`: it fails the
same check. -/
structure ContextManifest where
  execution : Member Manifest
  deriving DecidableEq

structure Payload where
  /-- Where it is a string. -/
  targetAgentId : Option String
  contextManifest : Member ContextManifest
  deriving DecidableEq

/-- What `send` reads of a message. -/
structure Message where
  type : Option String
  payload : Member Payload
  deriving DecidableEq

def hasGovernedExecution (message : Message) : Bool :=
  message.type = some "run.requested" &&
    match message.payload with
    | .object payload =>
      match payload.contextManifest with
      | .object context => context.execution ≠ .absent
      | _ => false
    | _ => false

def governedExecutionAgentId (message : Message) : Option String :=
  match message.payload with
  | .object payload => payload.targetAgentId
  | _ => none

def governedExecutionManifest (message : Message) : Option Manifest :=
  match message.payload with
  | .object payload =>
    match payload.contextManifest with
    | .object context =>
      match context.execution with
      | .object manifest => some manifest
      | _ => none
    | _ => none
  | _ => none

/-! ## The registry -/

inductive Event (Socket : Type) where
  | registered (deviceId : String) (id : ConnectionId) (epoch : Int) (socket : Socket)
  /-- `socket.close(code)`. -/
  | closed (id : ConnectionId) (socket : Socket) (code : Nat)
  | removed (id : ConnectionId)
  | recorded (id : ConnectionId) (agentId : String) (capability : GovernedCapability)
  | sent (id : ConnectionId) (socket : Socket) (message : Message)
  deriving DecidableEq

structure Registry (Socket : Type) where
  connections : String → Option (Connection Socket)
  next : ConnectionId
  log : List (Event Socket)

/-- The capabilities that `register` is given. -/
structure Capabilities where
  supportsAgentProvisioning : Bool
  governedExecution : Option GovernedCapability

inductive Answer where
  | returned (value : Bool)
  | threw

def superseded : Nat := 4001
def revoked : Nat := 4004

/-- Each grant belongs to the Agent, is not revoked, and is ready to run or to integrate; no grant
is listed twice. `seen` are the ids of the grants before. -/
def readyGrantsBelong (deviceId agentId : String) (operations : List Operation) :
    List String → List ExecutionGrantSummary → Bool
  | _, [] => true
  | seen, grant :: rest =>
    let runtimeReady := .prepare ∈ grant.operations ∧ .capture ∈ grant.operations ∧
      grant.integrationTargets = []
    let integrationReady := grant.operations = [.integrate] ∧ grant.integrationTargets ≠ []
    if grant.deviceId ≠ deviceId ∨ grant.agentId ≠ agentId ∨ grant.revokedAt ≠ none ∨
        grant.grant.grantId ∈ seen ∨ (¬ runtimeReady ∧ ¬ integrationReady) ∨
        ¬ (∀ operation ∈ grant.operations, operation ∈ operations) then false
    else readyGrantsBelong deviceId agentId operations (grant.grant.grantId :: seen) rest

def readyGrantsBelongToAgent (deviceId agentId : String) (capability : GovernedCapability) : Bool :=
  readyGrantsBelong deviceId agentId capability.operations [] (capability.readyGrants.getD [])

section Model

variable {Socket : Type} [DecidableEq Socket] (P : Platform) (D : Dates)
  (conforms : GovernedCapability → Bool)

def Registry.new : Registry Socket := ⟨fun _ => none, 0, []⟩

/-- The connections as the guards read them. -/
def Registry.view (r : Registry Socket) : Consent.Connections := fun deviceId =>
  (r.connections deviceId).map fun c => ⟨c.governedExecution, c.governedExecutionAgents⟩

/-- **`register`.** `conforms` is the schema of a capability. -/
def Registry.register (r : Registry Socket) (deviceId : String) (epoch : Int) (socket : Socket)
    (capabilities : Capabilities) : Answer × Registry Socket :=
  let existing := r.connections deviceId
  if existing.any (fun c => epoch ≤ c.epoch) then (.returned false, r)
  else if capabilities.governedExecution.any fun c => !conforms c || c.readyGrants.isSome then
    (.threw, r)
  else
    let closes := existing.toList.map fun c => Event.closed c.id c.socket superseded
    let connection : Connection Socket :=
      { id := r.next
        epoch
        socket
        supportsAgentProvisioning := capabilities.supportsAgentProvisioning
        governedExecution := capabilities.governedExecution
        governedExecutionAgents := fun _ => none }
    (.returned true,
      { connections := Function.update r.connections deviceId (some connection)
        next := r.next + 1
        log := r.log ++ closes ++ [.registered deviceId r.next epoch socket] })

/-- **`remove`.** -/
def Registry.remove (r : Registry Socket) (deviceId : String) (socket : Socket) : Registry Socket :=
  match r.connections deviceId with
  | none => r
  | some c =>
    if c.socket = socket then
      { r with
        connections := Function.update r.connections deviceId none
        log := r.log ++ [.removed c.id] }
    else r

/-- The guard of `send`: what carries a governed execution needs its exact current grant. -/
def Registry.allows (r : Registry Socket) (deviceId : String) (message : Message) (nowMs : Int) :
    Bool :=
  if hasGovernedExecution message then
    match governedExecutionAgentId message, governedExecutionManifest message with
    | some agentId, some manifest =>
      agentId ≠ "" && Consent.send P D r.view deviceId agentId manifest nowMs
    | _, _ => false
  else true

/-- **`send`**, at a time. -/
def Registry.send (r : Registry Socket) (deviceId : String) (message : Message) (nowMs : Int) :
    Bool × Registry Socket :=
  match r.connections deviceId with
  | none => (false, r)
  | some c =>
    if r.allows P D deviceId message nowMs then
      (true, { r with log := r.log ++ [.sent c.id c.socket message] })
    else (false, r)

def Registry.supportsGovernedAgentCapability (r : Registry Socket) (deviceId agentId : String)
    (capability : GovernedCapability) : Bool :=
  ((r.connections deviceId).bind (·.governedExecution)).any fun device =>
    device.workspaceBoundary = capability.workspaceBoundary &&
      (!capability.preventivePathEnforcement || device.preventivePathEnforcement) &&
      capability.operations.all (fun operation => operation ∈ device.operations) &&
      readyGrantsBelongToAgent deviceId agentId capability

/-- **`recordGovernedAgentCapability`.** -/
def Registry.recordGovernedAgentCapability (r : Registry Socket) (deviceId : String) (epoch : Int)
    (agentId : String) (capability : Option GovernedCapability) : Bool × Registry Socket :=
  match r.connections deviceId with
  | none => (false, r)
  | some c =>
    if c.epoch ≠ epoch then (false, r)
    else
      let recorded := fun (capability : Option GovernedCapability)
          (events : List (Event Socket)) =>
        { r with
          connections := Function.update r.connections deviceId (some { c with
            governedExecutionAgents :=
              Function.update c.governedExecutionAgents agentId capability })
          log := r.log ++ events }
      match capability with
      | none => (true, recorded none [])
      | some capability =>
        if r.supportsGovernedAgentCapability deviceId agentId capability then
          (true, recorded (some capability) [.recorded c.id agentId capability])
        else (false, r)

/-- **`revoke`.** -/
def Registry.revoke (r : Registry Socket) (deviceId : String) : Registry Socket :=
  match r.connections deviceId with
  | none => r
  | some c =>
    { r with
      connections := Function.update r.connections deviceId none
      log := r.log ++ [.closed c.id c.socket Connections.revoked] }

inductive Call (Socket : Type) where
  | register (deviceId : String) (epoch : Int) (socket : Socket) (capabilities : Capabilities)
  | remove (deviceId : String) (socket : Socket)
  | send (deviceId : String) (message : Message) (nowMs : Int)
  | record (deviceId : String) (epoch : Int) (agentId : String)
      (capability : Option GovernedCapability)
  | revoke (deviceId : String)

def Registry.call (r : Registry Socket) : Call Socket → Registry Socket
  | .register deviceId epoch socket capabilities =>
    (r.register conforms deviceId epoch socket capabilities).2
  | .remove deviceId socket => r.remove deviceId socket
  | .send deviceId message nowMs => (r.send P D deviceId message nowMs).2
  | .record deviceId epoch agentId capability =>
    (r.recordGovernedAgentCapability deviceId epoch agentId capability).2
  | .revoke deviceId => r.revoke deviceId

/-- **The registry**, under any sequence of calls. -/
def registry : System (Registry Socket) (Call Socket) where
  init r := r = .new
  step call r r' := r' = r.call P D conforms call

end Model

end AgentRoom.Connections
