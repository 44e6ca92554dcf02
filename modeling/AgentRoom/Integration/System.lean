import AgentRoom.Lib.System
import AgentRoom.Lib.Table
import AgentRoom.Lib.WriteOnce
import AgentRoom.Integration.Coordinator

/-!
# One operation and the refs of its repository

The Bridge's data directory has one owner, so one `Execute` runs at a time; other
operations, the owner and Git move the refs between any two of its steps. The
update of the target ref is a compare-and-set: whatever it answers, it took effect
or it did not. A stop of the host ends the execution anywhere and may lose what
the journal linked without syncing.

`updates`, `effects`, `lastUpdate` and `seen` are histories no code reads.
-/

namespace AgentRoom.Integration

/-- What an execution acts on, and what it did. -/
structure Desk where
  refs : Table String String
  intent : Option (WriteOnce Admission)
  receipt : Option (WriteOnce OperationReceipt)
  /-- How often the update was run, and how often it took effect. -/
  updates : Nat
  effects : Nat
  /-- Whether the update of the running execution answered well, once it has answered. -/
  lastUpdate : Option Bool
  /-- What a ref held when it was read. -/
  seen : List (String × String)

def writeError : WriteOnce.Outcome → Except IntegrationError Unit
  | .ok => .ok ()
  | .conflict => .error .conflict
  | .failed => .error .other

/-- An operation that neither reads nor writes the refs or the journal. -/
def IntegrationOp.outside : IntegrationOp → Bool
  | .receipt _ | .intent _ | .putIntent _ | .putReceipt _ | .showRef .. | .updateRef .. => false
  | _ => true

/-- **What performing an operation can do.** -/
inductive Performs : (op : IntegrationOp) → Desk → op.Resp → Desk → Prop
  | receipt (d : Desk) (operationId : String) :
      Performs (.receipt operationId) d (.ok (WriteOnce.read d.receipt)) d
  | receiptFailed (d : Desk) (operationId : String) (e : IntegrationError) :
      Performs (.receipt operationId) d (.error e) d
  | intent (d : Desk) (operationId : String) :
      Performs (.intent operationId) d (.ok (WriteOnce.read d.intent)) d
  | intentFailed (d : Desk) (operationId : String) (e : IntegrationError) :
      Performs (.intent operationId) d (.error e) d
  | putIntent (d : Desk) (admission : Admission) (attempt : WriteOnce.Attempt) :
      Performs (.putIntent admission) d
        (writeError (WriteOnce.ensure d.intent admission attempt).2)
        { d with intent := (WriteOnce.ensure d.intent admission attempt).1 }
  | putReceipt (d : Desk) (receipt : OperationReceipt) (attempt : WriteOnce.Attempt) :
      Performs (.putReceipt receipt) d
        (writeError (WriteOnce.ensure d.receipt receipt attempt).2)
        { d with receipt := (WriteOnce.ensure d.receipt receipt attempt).1 }
  | showRef {d : Desk} (source : Source) {targetRef commit : String}
      (held : d.refs.get targetRef = some commit) :
      Performs (.showRef source targetRef) d (.ok commit)
        { d with seen := d.seen ++ [(targetRef, commit)] }
  | showRefFailed (d : Desk) (source : Source) (targetRef : String) (e : HostError) :
      Performs (.showRef source targetRef) d (.error e) d
  /-- The compare-and-set took effect, and answered well or was killed after it. -/
  | updated {d : Desk} {targetRef new old : String} (held : d.refs.get targetRef = some old)
      (response : Except HostError Unit) :
      Performs (.updateRef targetRef new old) d response
        { d with
          refs := d.refs.put targetRef new, updates := d.updates + 1, effects := d.effects + 1
          lastUpdate := some response.isOk }
  /-- It failed, or was killed before it. -/
  | notUpdated (d : Desk) (targetRef new old : String) (e : HostError) :
      Performs (.updateRef targetRef new old) d (.error e)
        { d with updates := d.updates + 1, lastUpdate := some false }
  | outside {op : IntegrationOp} (h : op.outside = true) (d : Desk) (response : op.Resp) :
      Performs op d response d

/-- **The world of one operation.** -/
structure IntegrationWorld extends Desk where
  running : Option (IntegrationProg OperationReceipt)

inductive IntegrationLabel where
  | execute
  | op (op : IntegrationOp) (response : op.Resp)
  | returned
  /-- The host stops; a record that was not synced may be lost. -/
  | stop (lostIntent lostReceipt : Bool)
  /-- Somebody else moves a ref, or deletes it. -/
  | move (targetRef : String) (commit : Option String)

/-- **One step.** -/
inductive Step (rules : EvidenceRules) (operationId : String) :
    IntegrationLabel → IntegrationWorld → IntegrationWorld → Prop
  | execute {w : IntegrationWorld} (idle : w.running = none) :
      Step rules operationId .execute w
        { w with running := some (Coordinator.execute rules operationId), lastUpdate := none }
  | op {w : IntegrationWorld} {op : IntegrationOp} {k : op.Resp → IntegrationProg OperationReceipt}
      {response : op.Resp} {d : Desk} (running : w.running = some (.call op k))
      (performs : Performs op w.toDesk response d) :
      Step rules operationId (.op op response) w { toDesk := d, running := some (k response) }
  | returned {w : IntegrationWorld} {p : IntegrationProg OperationReceipt}
      (running : w.running = some p) (ended : p.ended = true) :
      Step rules operationId .returned w { w with running := none }
  | stop {w : IntegrationWorld} (lostIntent lostReceipt : Bool) :
      Step rules operationId (.stop lostIntent lostReceipt) w
        { w with
          running := none
          intent := WriteOnce.afterStop w.intent lostIntent
          receipt := WriteOnce.afterStop w.receipt lostReceipt }
  | move {w : IntegrationWorld} (targetRef : String) (commit : Option String) :
      Step rules operationId (.move targetRef commit) w
        { w with
          refs := match commit with
            | some commit => w.refs.put targetRef commit
            | none => w.refs.remove targetRef }

/-- **The system of one operation**, before it was ever executed. -/
def integrationSystem (rules : EvidenceRules) (operationId : String) :
    System IntegrationWorld IntegrationLabel where
  init w := w.intent = none ∧ w.receipt = none ∧ w.running = none ∧ w.updates = 0 ∧
    w.effects = 0 ∧ w.lastUpdate = none ∧ w.seen = []
  step := Step rules operationId

/-- **A receipt that tells the truth.** -/
def OutcomeSound (d : Desk) (receipt : OperationReceipt) : Prop :=
  match receipt.state with
  -- the ref held the candidate when this operation read it
  | .succeeded => (receipt.target.targetRef, receipt.candidateCommit) ∈ d.seen
  | .failed | .canceled => d.effects = 0
  | .outcomeUnknown => True
  | .prepared => False

/-! ## The condition -/

/-- **A read of the target that does not hide an effect of this operation's update**: after an
update that failed the ref holds the candidate, and a recovery does not find the approved commit
again. -/
def TruthfulRead (d : Desk) (targetRef : String) : Prop :=
  0 < d.effects → ∀ admission, WriteOnce.read d.intent = some admission →
    targetRef = admission.operation.action.target.targetRef →
    match d.lastUpdate with
    | none => d.refs.get targetRef ≠ some admission.operation.action.target.expectedCommit
    | some true => True
    | some false => d.refs.get targetRef = some admission.operation.action.candidateCommit

/-- **A truthful step**: reads are, and a stop loses nothing that is needed. -/
def TruthfulStep : IntegrationLabel → IntegrationWorld → Prop
  | .op (.showRef _ targetRef) _, w => TruthfulRead w.toDesk targetRef
  | .stop lostIntent lostReceipt, w =>
    (lostIntent = true → w.effects = 0 ∨ w.intent.all (·.durable) = true) ∧
      (lostReceipt = true → w.receipt.all (·.durable) = true)
  | _, _ => True

end AgentRoom.Integration
