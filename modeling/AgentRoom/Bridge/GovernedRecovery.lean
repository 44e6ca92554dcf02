import AgentRoom.Bridge.Admission
import AgentRoom.Bridge.Handler

/-!
# Recovery of governed Runs

`GovernedRecovery.Recover` joins the records of the inbox with the inventory of
governed admissions. It fences and closes each possible start first, then refuses
an inventory that does not fit together, then reports the governed records. Only
after it has succeeded does `RecoverAll` go on with the ordinary recovery.
-/

namespace AgentRoom.Bridge

open RuntimeExecutor

/-- `GovernedProcessFencer` and `GovernedRecoveryFence`. -/
inductive FenceOp where
  /-- `FenceAll`: every process of the process journal. -/
  | fenceAll
  /-- `FenceAndWait`: the exact process of a possible start. -/
  | fenceAndWait (view : RuntimeAdmissionView)
  | list
  | stop (runId admissionDigest startDigest : String) (outcome : RuntimeOutcome)

@[reducible] def FenceOp.Resp : FenceOp → Type
  | .fenceAll => Except Failure Unit
  | .fenceAndWait _ => Except Failure Unit
  | .list => Except Failure (List RuntimeAdmissionView)
  | .stop .. => Except Failure RuntimeAdmissionView

def fenceInterface : Interface where
  Op := FenceOp
  Resp := FenceOp.Resp

abbrev GovernedProg (α : Type) := Proc (bridgeInterface.sum fenceInterface) Failure α

def fenceAll : GovernedProg Unit :=
  .call (.inr .fenceAll) fun (r : Except Failure Unit) => .ofExcept r

def listViews : GovernedProg (List RuntimeAdmissionView) :=
  .call (.inr .list) fun (r : Except Failure (List RuntimeAdmissionView)) => .ofExcept r

/-! ## Errors -/

def Failure.message : Failure → String
  | .notExist => "file does not exist"
  | .error message => message

/-- `errors.Join` of what was collected and one more error. -/
def joinError (collected : Option String) (message : String) : Option String :=
  match collected with
  | none => some message
  | some earlier => some (earlier ++ "\n" ++ message)

/-- A failure after what was collected. -/
def joinFailure (collected : Option String) (failure : Failure) : Failure :=
  match collected with
  | none => failure
  | some earlier => .error (earlier ++ "\n" ++ failure.message)

/-- `ErrGovernedRecoveryInconsistent`. -/
def inconsistent : String := "governed Runtime recovery inventory is inconsistent"

/-- The same, about one Run. -/
def inconsistentRun (runId : String) : String := inconsistent ++ ": " ++ runId

namespace GovernedRecovery

variable (governance : Governance)

/-! ## The preflight -/

/-- `time.Parse` of an optional time, and whether `earlier` is not after it. -/
def notBefore (value : Option String) (earlier : Int) : Option Int :=
  (value.bind governance.parseTime).filter (earlier ≤ ·)

/-- **`validateGovernedRecoveryView`.** -/
def validateView (view : RuntimeAdmissionView) : Bool :=
  match governance.parseTime view.claimedAt with
  | none => false
  | some claimedAt =>
    match view.state with
    | .claimed =>
      view.startDigest.isNone && view.authorityCheckedAt.isNone && view.outcome.isNone &&
        view.stoppedAt.isNone
    | .starting =>
      view.startDigest.isSome && view.outcome.isNone && view.stoppedAt.isNone &&
        (notBefore governance view.authorityCheckedAt claimedAt).isSome
    | .stopped =>
      view.startDigest.isSome && view.outcome.any validRuntimeOutcome &&
        match notBefore governance view.authorityCheckedAt claimedAt with
        | none => false
        | some authorizedAt => (notBefore governance view.stoppedAt authorizedAt).isSome
    | .other _ => false

/-- `viewsByRun`. -/
def indexViews : List RuntimeAdmissionView → Table String RuntimeAdmissionView →
    Except Failure (Table String RuntimeAdmissionView)
  | [], viewsByRun => pure viewsByRun
  | view :: views, viewsByRun =>
    if (viewsByRun.get view.spec.runId).isSome then throw (.error inconsistent)
    else if validateView governance view = false then
      throw (.error (inconsistentRun view.spec.runId))
    else indexViews views (viewsByRun.put view.spec.runId view)

/-- **`validateGovernedRecoveryState`**: whether a state fits what is known of the start. -/
def validateState (record : Record) : Option RuntimeAdmissionView → Bool
  | none => record.state ≠ .working
  | some view =>
    match view.state with
    | .claimed => record.state ≠ .working
    | .starting | .stopped => record.state ≠ .preparing
    | .other _ => false

/-- A record that recovery can read: `validateRecoveryRecord`. -/
def readable (record : Record) : Bool := (validateRecoveryRecord record).isOk

/-- What the preflight collects about a record. -/
def checkRecord (viewsByRun : Table String RuntimeAdmissionView) (collected : Option String)
    (record : Record) : Option String :=
  if record.request.governed = false then collected
  else if readable record = false then joinError collected (inconsistentRun record.runId)
  else
    let view := viewsByRun.get record.runId
    let collected :=
      if view.all (validateRuntimeAdmissionRequest governance record.request) then collected
      else joinError collected (inconsistentRun record.runId)
    if validateState record view then collected
    else joinError collected (inconsistentRun record.runId)

/-- `governedByRun` holds the Run. -/
def governedRun (records : List Record) (runId : String) : Bool :=
  records.any fun record =>
    record.request.governed && readable record && decide (record.runId = runId)

/-- What the preflight collects about a view. -/
def checkView (records : List Record) (collected : Option String) (view : RuntimeAdmissionView) :
    Option String :=
  let collected :=
    if governedRun records view.spec.runId then collected
    else joinError collected (inconsistentRun view.spec.runId)
  match view.state with
  | .claimed | .starting | .stopped => collected
  | .other _ => joinError collected (inconsistentRun view.spec.runId)

/-- **The preflight**: `inventoryErr`. Go goes through the views in no order of its own, which
only the text of the error shows. -/
def preflight (records : List Record) (views : List RuntimeAdmissionView)
    (viewsByRun : Table String RuntimeAdmissionView) : Option String :=
  views.foldl (checkView records) (records.foldl (checkRecord governance viewsByRun) none)

/-! ## The fence -/

/-- What `Stop` must return for a possible start. -/
def closes (view closed : RuntimeAdmissionView) : Bool :=
  closed.spec = view.spec && closed.admissionDigest = view.admissionDigest &&
    closed.state = .stopped && closed.startDigest.isSome && closed.startDigest = view.startDigest &&
    closed.outcome = some .unknown

def closeStart (collected : Option String) (view : RuntimeAdmissionView) (startDigest : String) :
    GovernedProg RuntimeAdmissionView :=
  .call (.inr (.fenceAndWait view)) fun (fenced : Except Failure Unit) =>
    match fenced with
    | .error e => .fail (joinFailure collected e)
    | .ok () =>
      .call (.inr (.stop view.spec.runId view.admissionDigest startDigest .unknown))
        fun (stopped : Except Failure RuntimeAdmissionView) =>
          match stopped with
          | .error e => .fail (joinFailure collected e)
          | .ok closed =>
            if closes view closed then .ret closed
            else .fail (joinFailure collected (.error inconsistent))

/-- **Every possible start is fenced and closed**, however inconsistent the rest may be. -/
def fenceStarting : List RuntimeAdmissionView → Option String →
    Table String RuntimeAdmissionView →
    GovernedProg (Option String × Table String RuntimeAdmissionView)
  | [], collected, viewsByRun => .ret (collected, viewsByRun)
  | view :: views, collected, viewsByRun =>
    if view.state ≠ .starting then fenceStarting views collected viewsByRun
    else
      match view.startDigest with
      | none =>
        fenceStarting views (joinError collected (inconsistentRun view.spec.runId)) viewsByRun
      | some startDigest =>
        (closeStart collected view startDigest).bind fun closed =>
          fenceStarting views collected (viewsByRun.put view.spec.runId closed)

/-! ## The records -/

variable (config : Config)

def governedAccepted (record : Record) : Outgoing :=
  .accepted
    { identity :=
        { runId := record.runId, agentId := record.request.targetAgentId
          traceId := record.request.traceId } }

def replay (record : Record) : Prog Unit := do
  send (governedAccepted record)
  let _ ← RuntimeExecutor.replay config record.runId toSocket
  pure ()

/-- `emitUnknown` with a sender that only collects. -/
def persistUnknown (record : Record) (code : String) : Prog Unit := do
  let message := statusMessage record (record.lastSequence + 1) .outcomeUnknown
    (some { code, message := "Runtime outcome could not be determined.", retryable := false })
  let _ ← inbox (.appendEvent record.runId .outcomeUnknown (record.lastSequence + 1) message)
  clearTerminalCancellationFence record.request

def recoverUnknown (record : Record) : Prog Unit := do
  persistUnknown record "GOVERNED_RUNTIME_RESTARTED"
  replay config record

/-- One governed record, once every possible start is closed. -/
def recoverRecord (viewsByRun : Table String RuntimeAdmissionView) (record : Record) :
    Prog Unit := do
  let canceled ← inbox (.hasCancellation record.request)
  if canceled = true ∧ isTerminalState record.state = false then
    cancelTombstonedRecord config record
  else if isTerminalState record.state then
    replay config record
    clearTerminalCancellationFence record.request
  else if record.state = .preparing then pure ()
  else
    match viewsByRun.get record.runId with
    | none => pure ()
    | some view =>
      match view.state with
      | .claimed => pure ()
      | .stopped => recoverUnknown config record
      | .starting | .other _ => fail inconsistent

/-- The governed records, in the order they were listed. -/
def recoverRecords (viewsByRun : Table String RuntimeAdmissionView) (records : List Record) :
    Prog Unit :=
  Proc.forEach
    (fun record =>
      if record.request.governed then recoverRecord config viewsByRun record else .ret ())
    records

/-- What follows the two listings. -/
def recoverInventory (records : List Record) (views : List RuntimeAdmissionView) :
    GovernedProg Unit :=
  (Proc.ofExcept (indexViews governance views .empty)).bind fun viewsByRun =>
    (fenceStarting views (preflight governance records views viewsByRun) viewsByRun).bind
      fun (collected, viewsByRun) =>
        match collected with
        | some message => .fail (.error message)
        | none => (recoverRecords config viewsByRun records).inl

/-- **`Recover`.** -/
def recover : GovernedProg Unit :=
  fenceAll.bind fun _ =>
    (inbox .list).inl.bind fun records =>
      listViews.bind fun views => recoverInventory governance config records views

end GovernedRecovery

end AgentRoom.Bridge
