import AgentRoom.Bridge.Connection
import AgentRoom.Bridge.GovernedRecovery

/-!
# A recovery starts nothing

Neither the recovery of the governed records nor the ordinary one starts a Runtime,
whatever the inbox, the socket and the Artifact materializer answer.

As a system, the governed recovery and after its success the ordinary one act on the inbox, on
the inventory of admissions and on the processes that are still alive. What was
stopped stays stopped, and no operation revives a process.
-/

namespace AgentRoom.Bridge

open RuntimeExecutor GovernedRecovery

def Startless (op : Op) : Prop := op.starts = []

section Startless

variable {config : Config}

theorem startless_ask {α : Type} {op : Op} {k : op.Resp → Prog α} (h : op.starts = [])
    (hk : ∀ r, Proc.Only Startless (k r)) : Proc.Only Startless (.call op k : Prog α) :=
  ⟨h, hk⟩

theorem startless_inbox (op : InboxOp) : Proc.Only Startless (inbox op) :=
  startless_ask rfl fun r => Proc.only_ofExcept r

theorem startless_send (value : Outgoing) : Proc.Only Startless (send value) :=
  startless_ask rfl fun r => Proc.only_ofExcept r

theorem startless_toSocket (values : List Outgoing) : Proc.Only Startless (toSocket values) :=
  Proc.only_forEach values fun value _ => startless_send value

theorem startless_collect (values : List Outgoing) : Proc.Only Startless (collect values) := trivial

variable {sender : Sender}

theorem startless_replay (hs : ∀ values, Proc.Only Startless (sender values)) (runId : String) :
    Proc.Only Startless (RuntimeExecutor.replay config runId sender) :=
  Proc.only_bind (startless_inbox _) fun _ =>
    Proc.only_bind (Proc.only_ofExcept _) fun _ =>
      Proc.only_bind (hs _) fun _ => trivial

theorem startless_clearTerminalCancellationFence (request : RunRequest) :
    Proc.Only Startless (clearTerminalCancellationFence request) := by
  refine Proc.only_bind (startless_inbox _) fun _ => ?_
  split
  · refine Proc.only_bind (startless_inbox _) fun staged => ?_
    split
    · exact startless_inbox _
    · trivial
  · trivial

theorem startless_persistCanceled (hs : ∀ values, Proc.Only Startless (sender values))
    (record : Record) :
    Proc.Only Startless (persistCanceled config record sender) := by
  refine Proc.only_bind (startless_inbox _) fun updated => ?_
  split
  · exact Proc.only_bind (hs _) fun _ => trivial
  · exact startless_replay hs _

theorem startless_cancelQueued (hs : ∀ values, Proc.Only Startless (sender values))
    (record : Record) :
    Proc.Only Startless (cancelQueued config record sender) := by
  refine Proc.only_bind (startless_inbox _) fun latest => ?_
  split
  · exact startless_replay hs _
  · split
    · exact Proc.only_bind (startless_inbox _) fun _ => startless_persistCanceled hs _
    · split
      · exact startless_persistCanceled hs _
      · trivial

theorem startless_reportCanceled (record : Record) (materializationFailed : Bool) :
    Proc.Only Startless (Handler.reportCanceled config record materializationFailed) :=
  Proc.only_bind (startless_cancelQueued startless_collect record) fun terminal =>
    Proc.only_bind (startless_send _) fun _ =>
      Proc.only_bind (startless_toSocket terminal) fun _ => startless_inbox _

/-! ## The ordinary recovery -/

theorem startless_recoverable (records : List Record) :
    Proc.Only Startless (recoverable true records) := by
  induction records with
  | nil => trivial
  | cons record records ih =>
    unfold recoverable
    split
    · exact ih
    · split
      · exact Proc.only_bind ih fun _ => trivial
      · split
        · exact Proc.only_bind (startless_inbox _) fun _ => ih
        · trivial

theorem startless_reportRecovered (record : Record)
    (prepared : Except PrepareFailure (List Json)) :
    Proc.Only Startless (reportRecovered config record prepared) := by
  have hreplay : Proc.Only Startless (RuntimeExecutor.replay config record.runId toSocket) :=
    startless_replay startless_toSocket _
  refine Proc.only_bind (startless_send _) fun _ => ?_
  split
  · exact Proc.only_bind (startless_inbox _) fun _ => Proc.only_bind hreplay fun _ => trivial
  · exact Proc.only_bind hreplay fun _ => trivial

theorem startless_recoverPrepared (record : Record) :
    Proc.Only Startless (recoverPrepared config record) := by
  unfold recoverPrepared
  split
  · exact startless_reportRecovered record _
  · refine startless_ask rfl fun prepared => ?_
    cases prepared with
    | error failure =>
      dsimp only [Proc.bind]
      split
      · trivial
      · exact startless_reportRecovered record _
    | ok materializations => exact startless_reportRecovered record _

theorem startless_recoverSupplemental (record : Record) :
    Proc.Only Startless (recoverSupplemental record) := by
  unfold recoverSupplemental
  split
  · trivial
  · split
    · exact startless_inbox _
    · trivial

theorem startless_recoverRecord (record : Record) :
    Proc.Only Startless (RuntimeExecutor.recoverRecord config record) := by
  refine Proc.only_bind (startless_inbox _) fun canceled => ?_
  split
  · exact startless_reportCanceled record _
  · split
    · trivial
    · exact Proc.only_bind (startless_recoverSupplemental record) fun record =>
        startless_recoverPrepared record

/-- **The ordinary recovery starts no Runtime.** -/
theorem startless_recover : Proc.Only Startless (RuntimeExecutor.recover config true) :=
  Proc.only_bind (startless_inbox _) fun records =>
    Proc.only_bind (startless_recoverable records) fun records =>
      Proc.only_forEach records fun record _ => startless_recoverRecord record

/-! ## The governed records -/

theorem startless_governedReplay (record : Record) :
    Proc.Only Startless (GovernedRecovery.replay config record) :=
  Proc.only_bind (startless_send _) fun _ =>
    Proc.only_bind (startless_replay startless_toSocket _) fun _ => trivial

theorem startless_recoverUnknown (record : Record) :
    Proc.Only Startless (recoverUnknown config record) := by
  refine Proc.only_bind ?_ fun _ => startless_governedReplay record
  exact Proc.only_bind (startless_inbox _) fun _ => startless_clearTerminalCancellationFence _

theorem startless_governedRecord (viewsByRun : Table String RuntimeAdmissionView)
    (record : Record) :
    Proc.Only Startless (GovernedRecovery.recoverRecord config viewsByRun record) := by
  refine Proc.only_bind (startless_inbox _) fun canceled => ?_
  split
  · exact startless_reportCanceled record _
  · split
    · exact Proc.only_bind (startless_governedReplay record) fun _ =>
        startless_clearTerminalCancellationFence _
    · split
      · trivial
      · split
        · trivial
        · split
          · trivial
          · exact startless_recoverUnknown record
          · trivial
          · trivial

/-- **The governed records are recovered without starting a Runtime.** -/
theorem startless_recoverRecords (viewsByRun : Table String RuntimeAdmissionView)
    (records : List Record) :
    Proc.Only Startless (recoverRecords config viewsByRun records) := by
  refine Proc.only_forEach records fun record _ => ?_
  split
  · exact startless_governedRecord viewsByRun record
  · trivial

end Startless

/-! ## What the operations do -/

/-- What a governed recovery acts on, and what it has done. -/
structure Station where
  desk : Desk
  store : FenceStore
  /-- The process trees that are alive. -/
  alive : Set GovernedProcessIdentity
  /-- The operations on processes and inventory, with their answers. -/
  history : List ((op : FenceOp) × op.Resp)

/-- **What an operation on processes and inventory can do.** Processes may end at any time. A fence
that returns has seen the end of the exact process it was asked for; the inventory does what it
says, or fails before or after its write. -/
inductive FencePerforms (governance : Governance) :
    (op : FenceOp) → FenceStore → Set GovernedProcessIdentity → op.Resp → FenceStore →
      Set GovernedProcessIdentity → Prop
  | fenceAll {store : FenceStore} {alive alive' : Set GovernedProcessIdentity}
      (response : Except Failure Unit) (ended : alive' ⊆ alive) :
      FencePerforms governance .fenceAll store alive response store alive'
  | fenceAndWait {store : FenceStore} {alive alive' : Set GovernedProcessIdentity}
      {view : RuntimeAdmissionView} (response : Except Failure Unit) (ended : alive' ⊆ alive)
      (absent : response = .ok () → ∀ startDigest, view.startDigest = some startDigest →
        view.identity startDigest ∉ alive') :
      FencePerforms governance (.fenceAndWait view) store alive response store alive'
  | list {store : FenceStore} {alive alive' : Set GovernedProcessIdentity}
      (ended : alive' ⊆ alive) :
      FencePerforms governance .list store alive (FenceStore.list store).1 store alive'
  | listFailed {store : FenceStore} {alive alive' : Set GovernedProcessIdentity}
      (e : Failure) (ended : alive' ⊆ alive) :
      FencePerforms governance .list store alive (.error e) store alive'
  | stop {store : FenceStore} {alive alive' : Set GovernedProcessIdentity}
      {runId admissionDigest startDigest : String} {outcome : RuntimeOutcome} (now : Int)
      (ended : alive' ⊆ alive) :
      FencePerforms governance (.stop runId admissionDigest startDigest outcome) store alive
        (FenceStore.stop governance runId admissionDigest startDigest outcome now store).1
        (FenceStore.stop governance runId admissionDigest startDigest outcome now store).2 alive'
  | stopFailed {store store' : FenceStore} {alive alive' : Set GovernedProcessIdentity}
      {runId admissionDigest startDigest : String} {outcome : RuntimeOutcome} (now : Int)
      (e : Failure) (written : store' = store ∨ store' =
        (FenceStore.stop governance runId admissionDigest startDigest outcome now store).2)
      (ended : alive' ⊆ alive) :
      FencePerforms governance (.stop runId admissionDigest startDigest outcome) store alive
        (.error e) store' alive'

abbrev RecoveryOp := (bridgeInterface.sum fenceInterface).Op

abbrev RecoveryOp.Resp (op : RecoveryOp) : Type := (bridgeInterface.sum fenceInterface).Resp op

/-- **What performing an operation can do to the station.** -/
inductive StationStep (config : Config) (governance : Governance) :
    (op : RecoveryOp) → op.Resp → Station → Station → Prop
  | bridge {op : Op} {response : op.Resp} {s : Station} {inbox : Inbox}
      {alive : Set GovernedProcessIdentity}
      (performs : Performs config op s.desk.inbox response inbox) (ended : alive ⊆ s.alive) :
      StationStep config governance (.inl op) response s
        { s with desk := s.desk.performed op response inbox, alive }
  | fence {op : FenceOp} {response : op.Resp} {s : Station} {store : FenceStore}
      {alive : Set GovernedProcessIdentity}
      (performs : FencePerforms governance op s.store s.alive response store alive) :
      StationStep config governance (.inr op) response s
        { s with store, alive, history := s.history ++ [⟨op, response⟩] }

/-! ## The system -/

/-- Where `RecoverAll` is. -/
inductive Stage where
  | governed (program : GovernedProg Unit)
  | ordinary (program : Prog Unit)
  /-- It has returned, and the connection may be dialled. -/
  | recovered
  /-- It has failed. -/
  | offline

structure Startup extends Station where
  stage : Stage

/-- The steps of `RecoverAll`. -/
inductive StartupLabel where
  | governedOp | governedEnd | ordinaryOp | ordinaryEnd

/-- **One step of `RecoverAll`.** -/
inductive StartupStep (config : Config) (governance : Governance) :
    StartupLabel → Startup → Startup → Prop
  | governedOp {s : Startup} {op : RecoveryOp} {k : op.Resp → GovernedProg Unit}
      {response : op.Resp} {station : Station} (stage : s.stage = .governed (.call op k))
      (performs : StationStep config governance op response s.toStation station) :
      StartupStep config governance .governedOp s
        { toStation := station, stage := .governed (k response) }
  | governedDone {s : Startup} (stage : s.stage = .governed (.ret ())) :
      StartupStep config governance .governedEnd s
        { s with stage := .ordinary (RuntimeExecutor.recover config true) }
  | governedFailed {s : Startup} {e : Failure} (stage : s.stage = .governed (.fail e)) :
      StartupStep config governance .governedEnd s { s with stage := .offline }
  | ordinaryOp {s : Startup} {op : Op} {k : op.Resp → Prog Unit} {response : op.Resp}
      {station : Station} (stage : s.stage = .ordinary (.call op k))
      (performs : StationStep config governance (.inl op) response s.toStation station) :
      StartupStep config governance .ordinaryOp s
        { toStation := station, stage := .ordinary (k response) }
  | ordinaryDone {s : Startup} (stage : s.stage = .ordinary (.ret ())) :
      StartupStep config governance .ordinaryEnd s { s with stage := .recovered }
  | ordinaryFailed {s : Startup} {e : Failure} (stage : s.stage = .ordinary (.fail e)) :
      StartupStep config governance .ordinaryEnd s { s with stage := .offline }

/-- **`RecoverAll`, begun over any inbox, any inventory and any processes.** -/
def startup (config : Config) (governance : Governance) : System Startup StartupLabel where
  init s := s.stage = .governed (GovernedRecovery.recover governance config) ∧
    s.desk.sent = [] ∧ s.history = []
  step := StartupStep config governance

/-! ## What comes first -/

/-- The possible start was fenced, and closed after that. -/
def ClosedAfterFence (view : RuntimeAdmissionView) (history : List ((op : FenceOp) × op.Resp)) :
    Prop :=
  ∃ before between after startDigest closed,
    history = before ++ ⟨.fenceAndWait view, .ok ()⟩ ::
      (between ++ ⟨.stop view.spec.runId view.admissionDigest startDigest .unknown, .ok closed⟩ ::
        after) ∧
      view.startDigest = some startDigest

/-- **The possible start is fenced and stopped**: its process is gone, and the inventory says
so. -/
structure Stopped (runId : String) (view : RuntimeAdmissionView) (s : Station) : Prop where
  closed : ClosedAfterFence view s.history
  absent : ∀ startDigest, view.startDigest = some startDigest →
    view.identity startDigest ∉ s.alive
  stored : ∃ closed, s.store.views.get runId = some closed ∧ closed.state = .stopped

/-- **Every view of `found` that may still be running was fenced and stopped.** -/
def Secured (found : FenceStore) (s : Station) : Prop :=
  ∀ runId view, found.views.get runId = some view → view.state = .starting → Stopped runId view s

/-! ## What is secured stays secured -/

section Stopped

variable {config : Config} {governance : Governance} {s s' : Station} {found : FenceStore}

/-- What `Stop` can do: nothing, or close a possible start. -/
theorem FenceStore.stop_cases (runId admissionDigest startDigest : String)
    (outcome : RuntimeOutcome) (now : Int) (store : FenceStore) :
    (∃ r, stop governance runId admissionDigest startDigest outcome now store = (r, store) ∧
      ∀ view, r = .ok view → store.views.get runId = some view ∧ view.state = .stopped) ∨
    (∃ view, store.views.get runId = some view ∧ view.state = .starting ∧
      stop governance runId admissionDigest startDigest outcome now store =
        (.ok (closed governance view outcome now),
          { store with views := store.views.put runId (closed governance view outcome now) })) := by
  generalize hrun : stop governance runId admissionDigest startDigest outcome now store = run
  unfold stop at hrun
  split at hrun
  · exact .inl ⟨.error _, hrun.symm, fun _ h => by cases h⟩
  · split at hrun
    · exact .inl ⟨.error _, hrun.symm, fun _ h => by cases h⟩
    · rw [Tx.get_bind] at hrun
      rcases hget : store.views.get runId with _ | view
      · rw [hget] at hrun
        exact .inl ⟨.error _, hrun.symm, fun _ h => by cases h⟩
      · rw [hget] at hrun
        dsimp only at hrun
        split at hrun
        · exact .inl ⟨.error _, hrun.symm, fun _ h => by cases h⟩
        · split at hrun
          · rename_i hstopped
            split at hrun
            · exact .inl ⟨.error _, hrun.symm, fun _ h => by cases h⟩
            · refine .inl ⟨_, hrun.symm, fun closed heq => ?_⟩
              cases heq
              exact ⟨rfl, hstopped⟩
          · split at hrun
            · exact .inl ⟨.error _, hrun.symm, fun _ h => by cases h⟩
            · rename_i hstarting
              have hstate : view.state = .starting := by
                by_contra hne
                exact hstarting (.inl hne)
              exact .inr ⟨view, rfl, hstate, hrun.symm⟩

/-- **What the inventory can become.** -/
inductive StoreMove (governance : Governance) (store : FenceStore) : FenceStore → Prop
  | same : StoreMove governance store store
  | closed {runId : String} {view : RuntimeAdmissionView}
    (stored : store.views.get runId = some view)
      (starting : view.state = .starting) (outcome : RuntimeOutcome) (now : Int) :
      StoreMove governance store
        { store with
          views := store.views.put runId (FenceStore.closed governance view outcome now) }

theorem FenceStore.stop_move (runId admissionDigest startDigest : String)
    (outcome : RuntimeOutcome) (now : Int) (store : FenceStore) :
    StoreMove governance store
      (stop governance runId admissionDigest startDigest outcome now store).2 := by
  rcases @stop_cases governance runId admissionDigest startDigest outcome now store with
    ⟨r, heq, -⟩ | ⟨view, hget, hstate, heq⟩
  · rw [heq]
    exact .same
  · rw [heq]
    exact .closed hget hstate outcome now

variable {store store' : FenceStore} {alive alive' : Set GovernedProcessIdentity}

theorem FencePerforms.move {op : FenceOp} {response : op.Resp}
    (h : FencePerforms governance op store alive response store' alive') :
    StoreMove governance store store' ∧ alive' ⊆ alive := by
  cases h with
  | fenceAll _ ended => exact ⟨.same, ended⟩
  | fenceAndWait _ ended => exact ⟨.same, ended⟩
  | list ended => exact ⟨.same, ended⟩
  | listFailed _ ended => exact ⟨.same, ended⟩
  | stop now ended => exact ⟨FenceStore.stop_move .., ended⟩
  | stopFailed now e written ended =>
    rcases written with rfl | rfl
    · exact ⟨.same, ended⟩
    · exact ⟨FenceStore.stop_move .., ended⟩

/-! ### What was answered -/

variable {view : RuntimeAdmissionView}

theorem FencePerforms.fenced
    (h : FencePerforms governance (.fenceAndWait view) store alive (.ok ()) store' alive') :
    store' = store ∧ ∀ startDigest, view.startDigest = some startDigest →
      view.identity startDigest ∉ alive' := by
  generalize hr : (Except.ok () : Except Failure Unit) = response at h
  cases h with
  | fenceAndWait _ _ absent => exact ⟨rfl, absent hr.symm⟩

theorem FencePerforms.listed {views : List RuntimeAdmissionView}
    (h : FencePerforms governance .list store alive (.ok views) store' alive') :
    store' = store ∧ (FenceStore.list store).1 = .ok views := by
  generalize hr : (Except.ok views : Except Failure (List RuntimeAdmissionView)) = response at h
  cases h with
  | list _ => exact ⟨rfl, rfl⟩
  | listFailed e _ => cases hr

variable {runId : String}

theorem FencePerforms.stopped {admissionDigest startDigest : String} {outcome : RuntimeOutcome}
    {closed : RuntimeAdmissionView}
    (h : FencePerforms governance (.stop runId admissionDigest startDigest outcome) store alive
      (.ok closed) store' alive') :
    ∃ now, FenceStore.stop governance runId admissionDigest startDigest outcome now store =
      (.ok closed, store') := by
  generalize hr : (Except.ok closed : Except Failure RuntimeAdmissionView) = response at h
  cases h with
  | stop now _ => exact ⟨now, rfl⟩
  | stopFailed now e _ _ => cases hr

theorem StationStep.fence_inv {op : FenceOp} {response : op.Resp}
    (h : StationStep config governance (.inr op) response s s') :
    ∃ store alive, FencePerforms governance op s.store s.alive response store alive ∧
      s' = { s with store, alive, history := s.history ++ [⟨op, response⟩] } := by
  cases h with
  | fence performs => exact ⟨_, _, performs, rfl⟩

theorem StationStep.bridge_inv {op : Op} {response : op.Resp}
    (h : StationStep config governance (.inl op) response s s') :
    ∃ inbox alive, Performs config op s.desk.inbox response inbox ∧ alive ⊆ s.alive ∧
      s' = { s with desk := s.desk.performed op response inbox, alive } := by
  cases h with
  | bridge performs ended => exact ⟨_, _, performs, ended, rfl⟩

theorem StoreMove.stopped (h : StoreMove governance store store')
    (hget : store.views.get runId = some view) (hstopped : view.state = .stopped) :
    store'.views.get runId = some view := by
  cases h with
  | same => exact hget
  | @closed id starting stored hstarting outcome now =>
    by_cases heq : runId = id
    · subst heq
      rw [stored] at hget
      cases hget
      rw [hstarting] at hstopped
      cases hstopped
    · exact (Table.get_put_ne _ _ heq).trans hget

theorem ClosedAfterFence.append {history : List ((op : FenceOp) × op.Resp)}
    (h : ClosedAfterFence view history) (more : List ((op : FenceOp) × op.Resp)) :
    ClosedAfterFence view (history ++ more) := by
  obtain ⟨before, between, after, startDigest, closed, rfl, hdigest⟩ := h
  exact ⟨before, between, after ++ more, startDigest, closed, by simp, hdigest⟩

theorem Stopped.step {op : RecoveryOp} {response : op.Resp} (h : Stopped runId view s)
    (hs : StationStep config governance op response s s') : Stopped runId view s' := by
  obtain ⟨stored, hget, hstopped⟩ := h.stored
  cases hs with
  | bridge performs ended =>
    exact ⟨h.closed, fun d hd hmem => h.absent d hd (ended hmem), stored, hget, hstopped⟩
  | fence performs =>
    obtain ⟨hmove, ended⟩ := performs.move
    exact ⟨h.closed.append _, fun d hd hmem => h.absent d hd (ended hmem), stored,
      hmove.stopped hget hstopped, hstopped⟩

theorem Secured.step {op : RecoveryOp} {response : op.Resp} (h : Secured found s)
    (hs : StationStep config governance op response s s') : Secured found s' :=
  fun runId view hget hstate => (h runId view hget hstate).step hs

end Stopped

end AgentRoom.Bridge
