import AgentRoom.Run.Moves

/-!
# The service functions move along `Move`

One lemma a function: whatever it does, thrown errors included, is a sequence of
committed writes whose appended events the caller has named. Nothing below looks
inside a service function again.
-/

namespace AgentRoom

open Tx

variable {K : Allows} {db : Central}

theorem Along.allow {K' : Allows} {α : Type} {x : Db α} (h : Along (Move K) x db)
    (hK : ∀ db id run event, K db id run event → K' db id run event) (hsends : K.sends → K'.sends) :
    Along (Move K') x db :=
  moves_allow h hK hsends

theorem Along.side {α : Type} {x : Db α} {db : Central} (h : Along SideOnly x db) :
    Along (Move K) x db :=
  h.mono fun _ _ => Move.side

namespace RunRepository

variable {id : RunId} {now : Time} {db : Central}

theorem applyRuntimeEvent_along {event : RuntimeEvent} (adm : event.Admissible)
    (hK : ∀ run, db.runs.get id = some run → run.state.terminal = false →
      event.sequence = run.lastSequence + 1 → K db id run event) :
    Along (Move K) (applyRuntimeEvent id event now) db := by
  unfold Along
  rcases applyRuntimeEvent_cases id event now db with ⟨e, h⟩ | ⟨run, _, _, h⟩ | ⟨run, db', ha, h⟩
  · rw [h]
  · rw [h]
  · rw [h]
    exact .single (.append ha adm (hK run ha.get ha.live ha.next))

variable {α : Type} {r : Central → Central → Prop}

theorem getRun_bind_along {f : Option RunRecord → Db α} (h : Along r (f (db.runs.get id)) db) :
    Along r (getRun id >>= f) db := h

theorem getCancellationIntent_bind_along {f : Option RunCancellationIntent → Db α}
    (h : Along r (f (db.cancellationIntents.get id)) db) :
    Along r (getCancellationIntent id >>= f) db := h

theorem getCancellationIntent_along (id : RunId) (db : Central) :
    Along (Move K) (getCancellationIntent id) db := .refl

theorem reply_admissible (event : ReplyEvent) : (RuntimeEvent.reply event).Admissible := by
  intro e he
  cases he

theorem status_admissible {event : StatusEvent} (h : event.status ≠ .delivered) :
    (RuntimeEvent.status event).Admissible := by
  rintro e ⟨⟩ hd
  exact absurd hd h

theorem applyReply_along {event : ReplyEvent}
    (hK : ∀ run, db.runs.get id = some run → K db id run (.reply event)) :
    Along (Move K) (applyReply id event now) db := by
  refine along_immediate (along_bind ?_ fun applied db₁ _ => ?_)
  · exact applyRuntimeEvent_along (reply_admissible event) fun run hget _ _ => hK run hget
  · refine along_bind (along_when fun _ => ?_) fun _ db₂ _ => along_pure _
    exact Along.side (projectReplyMessage_side _ _ _ _)

theorem createRuns_along (services : Services) (requests : List RunRequest) (db : Central) :
    Along (Move K) (createRuns services requests) db := by
  refine along_immediate (along_forEach (fun _ => True) (fun _ _ _ _ => trivial) _
    (fun request _ db _ => ?_) trivial)
  refine along_bind ?_ fun _ db₁ _ => ?_
  · unfold insertRunIdentity
    refine along_bind_get ?_
    split
    · exact along_throw _
    · next hfresh =>
        have hnone : db.runs.get request.runId = none := by
          simpa using hfresh
        exact .single (.createRun hnone rfl rfl rfl rfl)
  · unfold freezeContextManifest
    refine along_bind_get ?_
    cases services.buildContextManifest db₁ request.runId with
    | error e => exact along_throw _
    | ok manifest =>
      dsimp only
      split
      · exact along_throw _
      · exact .single (.side ⟨rfl, rfl, rfl, rfl, rfl⟩)

theorem resolve_along {run : RunRecord} (hget : db.runs.get id = some run)
    (hended : run.state.terminal = true) :
    Along (Move K) (resolveCancellationIntent id run.state now) db :=
  along_modify (.settleIntent hget hended)

/-- What a cancellation request may append: a plain `canceled`. -/
def CancelRequestAppends (id : RunId) : Allows where
  appends db id' run event :=
    id' = id ∧ event = .status { sequence := run.lastSequence + 1, status := .canceled } ∧
      (run.state = .inputRequired ∨
        (run.state = .queued ∧ db.deliveries.get id = none ∧
          db.cancellationIntents.get id = none))

theorem requestCancellation_along {messageId requestedByMemberId : Nat} {reason : String}
    {ackDeadlineAt : Time} (hkey : ∀ run, db.runs.get id = some run → run.runId = id) :
    Along (Move (CancelRequestAppends id))
      (requestCancellation id messageId requestedByMemberId reason now ackDeadlineAt) db := by
  refine along_immediate (getRun_bind_along ?_)
  cases hget : db.runs.get id with
  | none => exact along_throw _
  | some run =>
    obtain rfl := hkey run hget
    refine getCancellationIntent_bind_along ?_
    split
    · next hended =>
        refine along_bind (along_when fun _ => resolve_along hget hended) fun _ db₁ _ => ?_
        exact getCancellationIntent_bind_along (along_pure _)
    split
    · next hwaiting =>
        refine along_bind ?_ fun _ _ _ => along_pure _
        refine applyRuntimeEvent_along (status_admissible (by simp)) fun run' hget' _ _ => ?_
        obtain rfl : run = run' := by simpa [hget] using hget'
        exact ⟨rfl, rfl, .inl hwaiting⟩
    split
    · exact along_pure _
    next hlive hnotWaiting hfirst =>
    have hfirst : db.cancellationIntents.get run.runId = none := by simpa using hfirst
    refine along_bind_get ?_
    dsimp only
    split
    · next hqueued =>
        refine along_bind ?_ fun _ _ _ => along_pure _
        refine applyRuntimeEvent_along (status_admissible (by simp)) fun run' hget' _ _ => ?_
        obtain rfl : run = run' := by simpa [hget] using hget'
        exact ⟨rfl, rfl, .inr ⟨hqueued.1, by simpa using hqueued.2, hfirst⟩⟩
    split
    · exact along_throw _
    cases db.deliveries.get run.runId with
    | none => exact along_throw _
    | some delivery =>
      refine along_bind (along_modify ?_) fun _ _ _ => along_pure _
      exact .openIntent hget (by simpa using hlive) hfirst rfl rfl rfl

theorem markCancellationIntentSent_along (id : RunId) (messageId : MessageId) (sentAt : Time)
    (db : Central) : Along (Move K) (markCancellationIntentSent id messageId sentAt) db := by
  refine along_bind ?_ fun _ _ _ => getCancellationIntent_along _ _
  unfold Along
  rw [modify_apply]
  cases hget : db.cancellationIntents.get id with
  | none => exact .refl
  | some intent =>
    dsimp only
    split
    · next h => exact .single (.touchIntent hget h.2)
    · rfl

/-- What the cancellation sweep may append: `outcome_unknown` for a pending intent it selected. -/
def AckTimeoutAppends (due : List RunId) : Allows where
  appends db id run event :=
    id ∈ due ∧
      (∃ intent, db.cancellationIntents.get id = some intent ∧ intent.state = .pending) ∧
      event = .status { sequence := run.lastSequence + 1, status := .outcomeUnknown
                        error := some cancelAckTimeout }

variable {due : List RunId}

theorem expireCancellationIntent_along (hdue : id ∈ due)
    (hkey : ∀ run, db.runs.get id = some run → run.runId = id) :
    Along (Move (AckTimeoutAppends due)) (expireCancellationIntent now id) db := by
  refine along_immediate (getCancellationIntent_bind_along (getRun_bind_along ?_))
  cases hint : db.cancellationIntents.get id with
  | none => exact along_throw _
  | some intent =>
    cases hget : db.runs.get id with
    | none => exact along_throw _
    | some run =>
      obtain rfl := hkey run hget
      dsimp only
      split
      · exact along_pure _
      next hpending =>
      split
      · next hended =>
          exact along_bind (resolve_along hget hended) fun _ _ _ => along_pure _
      · refine along_bind ?_ fun _ _ _ => along_pure _
        refine applyRuntimeEvent_along (status_admissible (by simp)) fun run' hget' _ _ => ?_
        obtain rfl : run = run' := by simpa [hget] using hget'
        exact ⟨hdue, ⟨intent, hint, by simpa using hpending⟩, rfl⟩

theorem expireCancellationIntents_along {limit : Nat} (hk : Keyed db) :
    Along (Move (AckTimeoutAppends (dueCancellationIntents db now limit)))
      (expireCancellationIntents now limit) db := by
  refine along_bind_get (along_forEach Keyed (fun _ _ => keyed_move) _
    (fun id hid db' hk' => ?_) hk)
  exact expireCancellationIntent_along hid (hk' id)

/-- What the queue sweep may append: `expired`, for a queued Run it selected. -/
def QueueExpiryAppends (due : List RunId) : Allows where
  appends _ id run event :=
    id ∈ due ∧ run.state = .queued ∧
      event = .status { sequence := run.lastSequence + 1, status := .expired
                        error := some runExpired }

/-- Until the sweep reaches it, a selected Run is queued. -/
def StillQueued (due : List RunId) (db : Central) : Prop :=
  ∀ id ∈ due, ∀ run, db.runs.get id = some run →
    run.state = .queued ∨ run.state.terminal = true

theorem stillQueued_move {db' : Central} (h : Move (QueueExpiryAppends due) db db')
    (hq : StillQueued due db) :
    StillQueued due db' := by
  intro id hid run hget
  cases h with
  | append h adm allowed =>
    obtain ⟨-, -, rfl⟩ := allowed
    rw [h.runs, Table.get_put] at hget
    split at hget
    · obtain rfl := Option.some.inj hget
      exact .inr rfl
    · exact hq id hid run hget
  | createRun fresh key state sequence terminalAt =>
    rw [Table.get_put] at hget
    split at hget
    · obtain rfl := Option.some.inj hget
      exact .inl state
    · exact hq id hid run hget
  | openIntent get live first key pending status => exact hq id hid run hget
  | settleIntent get ended => exact hq id hid run hget
  | touchIntent get pending => exact hq id hid run hget
  | deliver known => exact hq id hid run hget
  | send stored allowed => exact hq id hid run hget
  | side h => exact hq id hid run (h.runs ▸ hget)

variable {roomId : RoomId}

theorem mem_dueQueued (hk : Keyed db) (h : id ∈ dueQueued db roomId now) :
    ∃ run, db.runs.get id = some run ∧ run.state = .queued ∧ run.roomId = roomId ∧
      run.deadlineAt ≤ now := by
  obtain ⟨run, hmem, rfl⟩ := List.mem_map.mp h
  obtain ⟨hrow, hcond⟩ := List.mem_filter.mp (Table.mem_orderBy.mp hmem)
  obtain ⟨key, hget⟩ := Table.mem_rows.mp hrow
  obtain rfl := hk key run hget
  obtain ⟨hroom, hstate, hdue⟩ := of_decide_eq_true hcond
  exact ⟨run, hget, hstate, hroom, hdue⟩

theorem stillQueued_due (hk : Keyed db) (roomId : RoomId) (now : Time) :
    StillQueued (dueQueued db roomId now) db := by
  intro id hid run hget
  obtain ⟨run', hget', hstate, -⟩ := mem_dueQueued hk hid
  obtain rfl : run = run' := by simpa [hget] using hget'
  exact .inl hstate

theorem expireQueuedRun_along (hdue : id ∈ due) (hq : StillQueued due db) :
    Along (Move (QueueExpiryAppends due)) (expireQueuedRun now id) db := by
  refine getRun_bind_along (along_bind ?_ fun _ _ _ => along_pure _)
  refine applyRuntimeEvent_along (status_admissible (by simp)) fun run hget hlive _ => ?_
  refine ⟨hdue, ?_, by rw [hget]; rfl⟩
  rcases hq id hdue run hget with h | h
  · exact h
  · rw [hlive] at h
    cases h

theorem expireQueued_along (hk : Keyed db) :
    Along (Move (QueueExpiryAppends (dueQueued db roomId now))) (expireQueued roomId now) db := by
  refine along_bind_get (along_forEach (StillQueued (dueQueued db roomId now))
    (fun _ _ => stillQueued_move) _ (fun id hid db' hq => ?_) (stillQueued_due hk roomId now))
  exact expireQueuedRun_along hid hq

end RunRepository

namespace DeliveryService

open RunRepository

variable (services : Services) (accepts : DeviceId → BridgeMessage → Bool)

theorem send_along (deviceId : DeviceId) (runId : RunId) {message : BridgeMessage}
    (hK : message.isWork = true → K.sends) (db : Central) :
    Along (Move K) (send accepts deviceId runId message) db := by
  unfold send
  split
  · exact along_bind (along_modify (.send rfl hK)) fun _ _ _ => along_pure _
  · exact along_pure _

variable {db : Central} {runId : RunId}

theorem redeliver {delivery delivery' : DeliveryRecord}
    (hget : db.deliveries.get runId = some delivery) :
    Move K db { db with deliveries := db.deliveries.put runId delivery' } :=
  .deliver fun hnone => by
    rw [hget] at hnone
    cases hnone

theorem markSent_along (runId : RunId) (sentAt : Time) (db : Central) :
    Along (Move K) (markSent runId sentAt) db := by
  refine along_modify ?_
  cases hget : db.deliveries.get runId with
  | none => exact .side (SideOnly.refl db)
  | some delivery =>
    dsimp only
    split
    · exact redeliver hget
    · exact .side (SideOnly.refl db)

theorem ensure_along (clock : Time) (runId : RunId) (hk : Keyed db) :
    Along (Move K) (ensure services clock runId) db := by
  refine along_bind_get ?_
  cases db.deliveries.get runId with
  | some existing => exact along_pure _
  | none =>
  cases hrun : db.runs.get runId with
  | none => exact along_pure _
  | some run =>
  obtain rfl := hk runId run hrun
  dsimp only
  split
  · exact along_pure _
  split
  · next agent trigger _ _ =>
      cases agent.deviceId with
      | none => exact along_pure _
      | some deviceId =>
      dsimp only
      split
      · exact along_pure _
      refine along_bind (Along.side (createOpaqueId_side _)) fun attempt db₁ h₁ => ?_
      refine along_bind (Along.side (createOpaqueId_side _)) fun idem db₂ h₂ => ?_
      have hrun₂ : db₂.runs.get run.runId = some run := by
        obtain ⟨-, rfl⟩ := Prod.mk.inj h₁
        obtain ⟨-, rfl⟩ := Prod.mk.inj h₂
        exact hrun
      cases db.contextManifests.get run.runId with
      | none => exact along_throw _
      | some manifest =>
      dsimp only
      cases services.plan db run trigger.sequence with
      | error e => exact along_throw _
      | ok planned =>
      exact along_bind (along_modify (.deliver fun _ => ⟨run, hrun₂⟩)) fun _ _ _ => .refl
  · exact along_pure _

/-- What one dispatch may append: the expiry of Runs that share the Room of the dispatched Run,
itself due. -/
def DispatchAppends (clock : Time) (runId : RunId) (db : Central) : Allows where
  appends db' id run event := ∃ due, dueRun (db.runs.get runId) clock = some due ∧
    QueueExpiryAppends (dueQueued db due.roomId clock) db' id run event
  sends := True

theorem dispatch_along (clock : Time) (runId : RunId) (hk : Keyed db) :
    Along (Move (DispatchAppends clock runId db)) (dispatch services accepts clock runId) db := by
  refine getCancellationIntent_bind_along ?_
  split
  · exact .refl
  refine getRun_bind_along ?_
  cases hdue : dueRun (db.runs.get runId) clock with
  | some run =>
    refine along_bind ?_ fun _ _ _ => along_pure _
    exact Along.allow (expireQueued_along hk) (fun _ _ _ _ h => ⟨run, hdue, h⟩) (nomatch ·)
  | none =>
    refine along_bind (ensure_along services clock runId hk) fun found db₁ _ => ?_
    cases found with
    | none => exact along_pure _
    | some delivery =>
    dsimp only
    split
    · exact along_pure _
    refine along_bind (send_along _ _ _ (fun _ => trivial) _) fun sent db₂ _ => ?_
    split
    · exact along_bind (markSent_along _ _ _) fun _ _ _ => .refl
    · exact along_pure _

/-- What a reconnect may append: the expiry of queued Runs. -/
def AnyQueueExpiry : Allows where
  appends _ _ run event :=
    run.state = .queued ∧
      event = .status { sequence := run.lastSequence + 1, status := .expired
                        error := some runExpired }
  sends := True

theorem DispatchAppends.any {clock : Time} {db' : Central} {id : RunId} {run : RunRecord}
    {event : RuntimeEvent} (h : DispatchAppends clock runId db db' id run event) :
    AnyQueueExpiry db' id run event := by
  obtain ⟨due, -, -, hstate, hevent⟩ := h
  exact ⟨hstate, hevent⟩

theorem dispatchQueuedForDevice_along (clock : RunId → Time) (deviceId : DeviceId) (hk : Keyed db) :
    Along (Move AnyQueueExpiry) (dispatchQueuedForDevice services accepts clock deviceId) db := by
  refine along_bind_get (along_bind ?_ fun _ _ _ => along_pure _)
  refine along_forEach Keyed (fun _ _ => keyed_move) _ (fun id _ db' hk' => ?_) hk
  exact Along.allow (dispatch_along services accepts (clock id) id hk')
    (fun _ _ _ _ h => DispatchAppends.any h) (fun h => h)

/-- What an acceptance may append: the delivery, as the first event. -/
def AcceptAppends (id : RunId) : Allows where
  appends _ id' run event :=
    id' = id ∧ run.lastSequence = 0 ∧ event = .status { sequence := 1, status := .delivered }

theorem accept_along (principal : DevicePrincipal) (id : RunId) (traceId agentId sequence : Nat)
    (now : Time) (receipts failure : Option Json) (db : Central) :
    Along (Move (AcceptAppends id))
      (accept principal id traceId agentId sequence now receipts failure) db := by
  unfold accept
  split
  · exact along_throw _
  refine along_bind_get ?_
  split
  · next run agent delivery _ _ _ =>
      split
      · exact along_throw _
      split
      · exact along_throw _
      refine along_bind (along_modify ?_) fun _ db₁ _ => ?_
      · split
        · next hget =>
            split
            · exact redeliver hget
            · exact .side (SideOnly.refl db)
        · exact .side (SideOnly.refl db)
      refine along_bind ?_ fun _ _ _ => along_pure _
      refine applyRuntimeEvent_along ?_ fun run _ _ hnext => ⟨rfl, ?_, rfl⟩
      · rintro e ⟨⟩ _
        rfl
      · simpa [RuntimeEvent.sequence] using hnext.symm
  · exact along_throw _

end DeliveryService

namespace BridgeRunEventService

open RunRepository

variable (services : Services)

/-- **Who may report on a Run.** The conditions `requireOwnedRun` checks. -/
structure OwnedRun (db : Central) (principal : DevicePrincipal) (identity : ReportIdentity)
    (terminalStatus : Bool) (run : RunRecord) : Prop where
  get : db.runs.get identity.runId = some run
  trace : run.traceId = identity.traceId
  target : run.targetAgentId = identity.agentId
  agent : ∃ agent, db.agents.get identity.agentId = some agent ∧
    correctDevice (frozenIntent db identity terminalStatus) agent identity.agentId
      principal = true ∧
    agent.ownerMemberId = principal.ownerMemberId ∧ agent.teamId = principal.teamId

variable {db : Central} {principal : DevicePrincipal} {identity : ReportIdentity} {run : RunRecord}

theorem OwnedRun.frozen (h : OwnedRun db principal identity true run)
    {intent : RunCancellationIntent}
    (hint : db.cancellationIntents.get identity.runId = some intent) :
    intent.deviceId = principal.deviceId := by
  obtain ⟨agent, -, hdev, -⟩ := h.agent
  simp only [frozenIntent, if_true, hint, correctDevice, Bool.and_eq_true,
    decide_eq_true_eq] at hdev
  exact hdev.2

/-- `requireOwnedRun` only reads; it returns the Run exactly to who may report on it. -/
theorem requireOwnedRun_cases (db : Central) (principal : DevicePrincipal)
    (identity : ReportIdentity) (terminalStatus : Bool) :
    (∃ e, requireOwnedRun principal identity terminalStatus db = (.error e, db) ∧
      ∀ run, ¬ OwnedRun db principal identity terminalStatus run) ∨
    (∃ run, OwnedRun db principal identity terminalStatus run ∧
      requireOwnedRun principal identity terminalStatus db = (.ok run, db)) := by
  unfold requireOwnedRun
  rw [get_bind]
  cases hrun : db.runs.get identity.runId with
  | none =>
    refine .inl ⟨_, rfl, fun run h => ?_⟩
    rw [h.get] at hrun
    cases hrun
  | some run =>
  cases hagent : db.agents.get identity.agentId with
  | none =>
    refine .inl ⟨_, rfl, fun run h => ?_⟩
    obtain ⟨agent, ha, -⟩ := h.agent
    rw [hagent] at ha
    cases ha
  | some agent =>
  dsimp only
  split
  · -- any of the five checks refuses
    next hbad =>
      refine .inl ⟨_, rfl, fun run' h => ?_⟩
      obtain ⟨agent', ha, hdev, howner, hteam⟩ := h.agent
      obtain rfl : run = run' := by simpa [hrun] using h.get
      obtain rfl : agent = agent' := by simpa [hagent] using ha
      rcases hbad with hb | hb | hb | hb | hb
      · exact hb h.trace
      · exact hb h.target
      · rw [hb] at hdev
        cases hdev
      · exact hb howner
      · exact hb hteam
  · next hgood =>
      refine .inr ⟨run, ?_, rfl⟩
      push Not at hgood
      obtain ⟨htrace, htarget, hdev, howner, hteam⟩ := hgood
      exact ⟨hrun, htrace, htarget, agent, hagent, by simpa using hdev, howner,
        hteam⟩

variable {α : Type} {r : Central → Central → Prop}

theorem require_bind_along {check : Except Err Unit} {f : Unit → Db α}
    (h : check = .ok () → Along r (f ()) db) :
    Along r (require check >>= f) db := by
  cases check with
  | ok u => exact h rfl
  | error e => exact .refl

/-- A report by `principal`: either the Run is not theirs and nothing happens, or the rest of the
service runs on the Run they own. -/
theorem requireOwnedRun_bind_along {terminalStatus : Bool} {f : RunRecord → Db α}
    (h : ∀ run, OwnedRun db principal identity terminalStatus run → Along r (f run) db) :
    Along r (requireOwnedRun principal identity terminalStatus >>= f) db := by
  rcases requireOwnedRun_cases db principal identity terminalStatus with
    ⟨e, he, -⟩ | ⟨run, hown, hr⟩
  · unfold Along
    rw [bind_error he]
  · unfold Along
    rw [bind_ok hr]
    exact h run hown

theorem acknowledge_along (run : RunRecord) (scope : String) (revision : Nat) (db : Central) :
    Along (Move K) (acknowledge run scope revision) db := by
  refine along_bind_get ?_
  dsimp only
  split
  · exact along_pure _
  · exact require_bind_along fun _ => .single (.side ⟨rfl, rfl, rfl, rfl, rfl⟩)

theorem updateAgentPresence_along (agentId : AgentId) (presence : Presence) (db : Central) :
    Along (Move K) (updateAgentPresence agentId presence) db := by
  refine along_modify (.side ?_)
  split <;> exact ⟨rfl, rfl, rfl, rfl, rfl⟩

/-- What a status report may append: its own event, on the Run it may report on. -/
def StatusAppends (principal : DevicePrincipal) (input : StatusInput) : Allows where
  appends db id run event :=
    id = input.identity.runId ∧ event = .status (statusEvent services input) ∧
      input.status.fromBridge = true ∧
      OwnedRun db principal input.identity input.status.bridgeTerminal run

/-- What a reply, output or activity report may append: an event that keeps the Run's state. -/
def ContentAppends (principal : DevicePrincipal) (identity : ReportIdentity) : Allows where
  appends db id run event :=
    id = identity.runId ∧ (∀ state, event.nextState state = state) ∧
      OwnedRun db principal identity false run

theorem check_bind_ok {x : Except Err Unit} {f : Unit → Except Err Unit}
    (h : (x >>= f) = .ok ()) : x = .ok () ∧ f () = .ok () := by
  cases x with
  | ok u => exact ⟨rfl, h⟩
  | error e => cases h

variable {input : StatusInput}

theorem validateReport_fromBridge (h : validateReport db run input = .ok ()) :
    input.status.fromBridge = true := by
  obtain ⟨hkind, -⟩ := check_bind_ok h
  unfold validateStatusKind at hkind
  split at hkind
  · next hb => exact hb
  · cases hkind

theorem fromBridge_not_delivered {status : RuntimeStatus} (h : status.fromBridge = true) :
    status ≠ .delivered := by
  rintro rfl
  cases h

variable {now : Time}

theorem applyStatus_along (hk : Keyed db) :
    Along (Move (StatusAppends services principal input))
      (applyStatus services principal input now) db := by
  refine requireOwnedRun_bind_along fun run hown => ?_
  refine along_bind_get (require_bind_along fun _ => ?_)
  refine along_bind_get (require_bind_along fun hvalid => ?_)
  have hbridge := validateReport_fromBridge hvalid
  have hid : run.runId = input.identity.runId := hk _ _ hown.get
  refine along_bind ?_ fun applied db₁ _ => ?_
  · refine applyRuntimeEvent_along (status_admissible (fromBridge_not_delivered hbridge))
      fun run' hget _ _ => ?_
    obtain rfl : run = run' := by simpa [hid, hown.get] using hget
    exact ⟨hid, rfl, hbridge, hown⟩
  refine along_bind (along_when fun _ => updateAgentPresence_along _ _ _) fun _ db₂ _ => ?_
  refine along_bind (along_whenSome fun cursor _ => ?_) fun _ db₃ _ => along_pure _
  exact acknowledge_along _ _ _ _

theorem applyReply_along {principal : DevicePrincipal} {input : ReplyInput} {now : Time}
    {db : Central} (hk : Keyed db) :
    Along (Move (ContentAppends principal input.identity))
      (applyReply services principal input now) db := by
  refine requireOwnedRun_bind_along fun run hown => ?_
  refine require_bind_along fun _ => require_bind_along fun _ => ?_
  have hid : run.runId = input.identity.runId := hk _ _ hown.get
  refine RunRepository.applyReply_along fun run' hget => ?_
  obtain rfl : run = run' := by simpa [hid, hown.get] using hget
  exact ⟨hid, fun _ => rfl, hown⟩

theorem applyActivity_along {input : ActivityInput} (hk : Keyed db) :
    Along (Move (ContentAppends principal input.identity))
      (applyActivity services principal input now) db := by
  refine requireOwnedRun_bind_along fun run hown => ?_
  refine require_bind_along fun _ => require_bind_along fun _ => ?_
  have hid : run.runId = input.identity.runId := hk _ _ hown.get
  refine applyRuntimeEvent_along (by rintro e ⟨⟩) fun run' hget _ _ => ?_
  obtain rfl : run = run' := by simpa [hid, hown.get] using hget
  exact ⟨hid, fun _ => rfl, hown⟩

theorem applyOutput_along {input : OutputInput} (hk : Keyed db) :
    Along (Move (ContentAppends principal input.identity))
      (applyOutput services principal input now) db := by
  refine requireOwnedRun_bind_along fun run hown => ?_
  refine require_bind_along fun _ => require_bind_along fun _ => along_bind_get ?_
  have hid : run.runId = input.identity.runId := hk _ _ hown.get
  have happly : ∀ event : OutputEvent, Along (Move (ContentAppends principal input.identity))
      (applyEvent run.runId (.output event) now) db := by
    intro event
    refine applyRuntimeEvent_along (by rintro e ⟨⟩) fun run' hget _ _ => ?_
    obtain rfl : run = run' := by simpa [hid, hown.get] using hget
    exact ⟨hid, fun _ => rfl, hown⟩
  dsimp only
  split
  · exact happly _
  split
  · exact along_throw _
  · exact happly _

end BridgeRunEventService

namespace CancellationService

variable (accepts : DeviceId → BridgeMessage → Bool)

theorem dispatch_along (sentAt : Time) (id : RunId) (db : Central) :
    Along (Move K) (dispatch accepts sentAt id) db := by
  refine RunRepository.getCancellationIntent_bind_along (RunRepository.getRun_bind_along ?_)
  split
  · split
    · exact along_pure _
    refine along_bind (DeliveryService.send_along _ _ _ (by rintro ⟨⟩) _) fun sent db₁ _ => ?_
    split
    · exact along_bind (RunRepository.markCancellationIntentSent_along _ _ _ _)
        fun _ _ _ => along_pure _
    · exact along_pure _
  · exact along_pure _

/-- What a cancellation sweep may append. -/
def SweepAppends (db : Central) (now : Time) (limit : Nat) : Allows :=
  RunRepository.AckTimeoutAppends (RunRepository.dueCancellationIntents db now limit)

theorem sweep_along (now sentBefore : Time) (limit : Nat) (deviceId : Option DeviceId)
    {db : Central} (hk : Keyed db) :
    Along (Move (SweepAppends db now limit)) (sweep accepts now sentBefore limit deviceId) db := by
  refine along_bind (RunRepository.expireCancellationIntents_along hk) fun _ db₁ _ => ?_
  exact along_bind_get (along_forEach (fun _ => True) (fun _ _ _ _ => trivial) _
    (fun id _ db' _ => dispatch_along _ _ _ _) trivial)

end CancellationService

namespace DeviceRevocationService

/-- What a revocation may append: the end of a Run it listed. -/
def RevocationAppends (db : Central) (deviceId : DeviceId) : Allows where
  appends _ id _ event :=
    ∃ affected ∈ listDeviceRevocationRuns db deviceId, id = affected.run.runId ∧
      event = .status { sequence := affected.run.lastSequence + 1
                        status := revocationStatus affected.acceptedByBridge
                        error := some (revocationError affected.acceptedByBridge) }

theorem revocationStatus_not_delivered (accepted : Bool) :
    revocationStatus accepted ≠ .delivered := by
  cases accepted <;> simp [revocationStatus]

theorem reconcile_along (deviceId : DeviceId) (now : Time) (db : Central) :
    Along (Move (RevocationAppends db deviceId)) (reconcile deviceId now) db := by
  refine along_bind_get (along_forEach (fun _ => True) (fun _ _ _ _ => trivial) _
    (fun affected haff db' _ => ?_) trivial)
  refine RunRepository.applyRuntimeEvent_along
    (RunRepository.status_admissible (revocationStatus_not_delivered _)) fun run _ _ _ => ?_
  exact ⟨affected, haff, rfl, rfl⟩

end DeviceRevocationService

theorem dispatchRun_along (services : Services) (accepts : DeviceId → BridgeMessage → Bool)
    (clock : Time) (run : RunRecord) (hk : Keyed db) :
    Along (Move (DeliveryService.DispatchAppends clock run.runId db))
      (dispatchRun services accepts clock run) db := by
  unfold dispatchRun
  split
  · exact along_pure _
  refine along_bind_get ?_
  dsimp only
  split
  · exact along_bind (DeliveryService.dispatch_along _ _ _ _ hk) fun _ _ _ => .refl
  · exact .refl

end AgentRoom
