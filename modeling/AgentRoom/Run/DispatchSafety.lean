import AgentRoom.Run.LateReports

/-!
# Which Runs are sent as new work

`dispatch` sends the pending delivery row of a Run without looking at the Run's
state again, and two callers reach it with a Run that has ended: one that read the
Run earlier, and the reconnect sweep, whose rows are selected before the first of
them expires its whole Room.

Every recorded emission carries the state the Run had when it was written, so the
property is an invariant: each `run.requested` was sent for a live Run. It holds
along every run whose dispatches meet `StepSafe`, and it fails in general.
-/

namespace AgentRoom

open Tx RunRepository DeliveryService

/-- An emission of new work for a Run that was live. -/
def Emission.Live (e : Emission) : Prop :=
  e.message.isWork = true → ∃ state, e.storedState = some state ∧ state.terminal = false

/-- Every `run.requested` so far was sent for a live Run. -/
def OnlyLiveSent (db : Central) : Prop := ∀ e ∈ db.emitted, e.Live

/-- Every delivery row is the row of a Run. -/
def DeliveriesKnown (db : Central) : Prop :=
  ∀ id delivery, db.deliveries.get id = some delivery → ∃ run, db.runs.get id = some run

variable {K : Allows} {db db' : Central} {id : RunId} {run : RunRecord}

theorem run_kept (h : Move K db db') (hget : db.runs.get id = some run) :
    ∃ run', db'.runs.get id = some run' := by
  obtain ⟨run', hget', -⟩ := later_move h id run hget
  exact ⟨run', hget'⟩

theorem deliveriesKnown_move (h : Move K db db') (hd : DeliveriesKnown db) :
    DeliveriesKnown db' := by
  intro id delivery hget
  have key : db'.deliveries = db.deliveries → ∃ run, db'.runs.get id = some run := by
    intro hsame
    rw [hsame] at hget
    obtain ⟨run, hrun⟩ := hd id delivery hget
    exact run_kept h hrun
  cases h with
  | append h adm allowed => exact key h.deliveries
  | openIntent get live first key' pending status => exact key rfl
  | settleIntent get ended => exact key rfl
  | touchIntent get pending => exact key rfl
  | createRun fresh key' state sequence terminalAt => exact key rfl
  | send stored allowed => exact key rfl
  | side h => exact key h.deliveries
  | deliver known =>
    rename_i id₀ delivery₀
    by_cases hid : id = id₀
    · subst hid
      cases hold : db.deliveries.get id with
      | none => exact known hold
      | some old => exact hd id old hold
    · rw [Table.get_put_ne _ _ hid] at hget
      exact hd id delivery hget

theorem deliveriesKnown_reachable {services : Services} (h : (central services).Reachable db) :
    DeliveriesKnown db := by
  refine central_invariant ?_ (fun _ _ _ => deliveriesKnown_move) h
  rintro db ⟨-, -, -, hdel, -⟩ id delivery hget
  rw [hdel] at hget
  cases hget

/-- A program that may not send work sends none. -/
theorem onlyLiveSent_quiet (hK : ¬ K.sends) (h : Relation.ReflTransGen (Move K) db db')
    (hl : OnlyLiveSent db) : OnlyLiveSent db' := by
  induction h with
  | refl => exact hl
  | tail _ hlast ih =>
    intro e he
    cases hlast with
    | append h adm allowed => exact ih e (h.emitted ▸ he)
    | openIntent get live first key pending status => exact ih e he
    | settleIntent get ended => exact ih e he
    | touchIntent get pending => exact ih e he
    | createRun fresh key state sequence terminalAt => exact ih e he
    | deliver known => exact ih e he
    | side h => exact ih e (h.emitted ▸ he)
    | send stored allowed =>
      rcases List.mem_append.mp he with hold | hnew
      · exact ih e hold
      · obtain rfl := List.mem_singleton.mp hnew
        exact fun hw => absurd (allowed hw) hK

/-! ## One dispatch -/

section Dispatch

variable (services : Services) (accepts : DeviceId → BridgeMessage → Bool)

/-- The Run's delivery row is still pending, and its socket takes the message. -/
def Sendable (db : Central) (runId : RunId) : Prop :=
  ∃ delivery, db.deliveries.get runId = some delivery ∧ delivery.state = .pending ∧
    accepts delivery.deviceId (.runRequested delivery.payload) = true

instance (db : Central) (runId : RunId) : Decidable (Sendable accepts db runId) :=
  decidable_of_iff ((db.deliveries.get runId).any (fun delivery =>
      decide (delivery.state = .pending) &&
        accepts delivery.deviceId (.runRequested delivery.payload)) = true) <| by
    unfold Sendable
    cases db.deliveries.get runId <;> simp

/-- An ended Run has no row left that a dispatch would send. -/
def EndedNotSendable (db : Central) (runId : RunId) : Prop :=
  ∀ run, db.runs.get runId = some run → run.state.terminal = true → ¬ Sendable accepts db runId

instance (db : Central) (runId : RunId) : Decidable (EndedNotSendable accepts db runId) :=
  decidable_of_iff ((db.runs.get runId).all (fun run =>
      !(run.state.terminal && decide (Sendable accepts db runId))) = true) <| by
    unfold EndedNotSendable
    cases db.runs.get runId <;> simp [or_iff_not_imp_left]

/-- What a dispatch that does not sweep leaves alone. -/
structure DispatchFrame (runId : RunId) (db db' : Central) : Prop where
  runs : db'.runs = db.runs
  intents : db'.cancellationIntents = db.cancellationIntents
  deliveries : ∀ id, id ≠ runId → db'.deliveries.get id = db.deliveries.get id

theorem DispatchFrame.refl (runId : RunId) (db : Central) : DispatchFrame runId db db :=
  ⟨rfl, rfl, fun _ _ => rfl⟩

variable {runId : RunId} {db : Central}

theorem ensure_existing (clock : Time) {delivery : DeliveryRecord}
    (hrow : db.deliveries.get runId = some delivery) :
    ensure services clock runId db = (.ok (some delivery), db) := by
  unfold ensure
  rw [get_bind, hrow]
  rfl

/-- Without a row, `ensure` makes one at most, and only for a queued Run. -/
theorem ensure_absent (clock : Time) (hk : Keyed db) (hrow : db.deliveries.get runId = none) :
    DispatchFrame runId db (ensure services clock runId db).2 ∧
    (ensure services clock runId db).2.emitted = db.emitted ∧
    ∀ delivery, (ensure services clock runId db).1 = .ok (some delivery) →
      ∃ run, db.runs.get runId = some run ∧ run.state = .queued := by
  have hframe := DispatchFrame.refl runId db
  unfold ensure
  rw [get_bind, hrow]
  dsimp only
  cases hrun : db.runs.get runId with
  | none => exact ⟨hframe, rfl, by simp⟩
  | some run =>
  have hid : run.runId = runId := hk runId run hrun
  by_cases hq : run.state = .queued
  swap
  · simp only [ne_eq, hq, not_false_eq_true, if_true]
    exact ⟨hframe, rfl, by simp⟩
  simp only [hq, ne_eq, not_true_eq_false, if_false]
  cases db.agents.get run.targetAgentId with
  | none => exact ⟨hframe, rfl, by simp⟩
  | some agent =>
  cases db.messages.get run.triggerMessageId with
  | none => exact ⟨hframe, rfl, by simp⟩
  | some trigger =>
  dsimp only
  cases agent.deviceId with
  | none => exact ⟨hframe, rfl, by simp⟩
  | some deviceId =>
  dsimp only
  by_cases hmode : agent.integrationMode = .managed
  swap
  · simp only [hmode, not_false_eq_true, if_true]
    exact ⟨hframe, rfl, by simp⟩
  simp only [hmode, not_true_eq_false, if_false]
  -- nothing is written before the row itself: only identifiers are drawn
  have hids : ∀ db : Central, createOpaqueId db =
      (.ok db.nextId, { db with nextId := db.nextId + 1 }) := fun _ => rfl
  rw [bind_ok (hids db), bind_ok (hids _)]
  cases db.contextManifests.get run.runId with
  | none => exact ⟨⟨rfl, rfl, fun _ _ => rfl⟩, rfl, by simp⟩
  | some manifest =>
  cases services.plan db run trigger.sequence with
  | error e => exact ⟨⟨rfl, rfl, fun _ _ => rfl⟩, rfl, by simp⟩
  | ok planned =>
  refine ⟨⟨rfl, rfl, fun id hne => ?_⟩, rfl, fun _ _ => ⟨run, rfl, hq⟩⟩
  subst hid
  exact Table.get_put_ne _ _ hne

theorem send_apply (deviceId : DeviceId) (runId : RunId) (message : BridgeMessage)
    (db : Central) :
    send accepts deviceId runId message db =
      if accepts deviceId message = true then
        (.ok true, { db with
          emitted := db.emitted ++
            [{ deviceId, runId, message, storedState := (db.runs.get runId).map (·.state) }] })
      else (.ok false, db) := by
  unfold send
  split <;> rfl

theorem markSent_frame (runId : RunId) (sentAt : Time) (db : Central) :
    ∃ db', markSent runId sentAt db = (.ok (), db') ∧ DispatchFrame runId db db' ∧
      db'.emitted = db.emitted := by
  unfold markSent
  rw [modify_apply]
  refine ⟨_, rfl, ?_⟩
  cases db.deliveries.get runId with
  | none => exact ⟨DispatchFrame.refl runId db, rfl⟩
  | some delivery =>
    dsimp only
    split
    · exact ⟨⟨rfl, rfl, fun id hne => Table.get_put_ne _ _ hne⟩, rfl⟩
    · exact ⟨DispatchFrame.refl runId db, rfl⟩

theorem dispatch_waiting (clock : Time)
    (h : (db.cancellationIntents.get runId).map (·.state) = some .pending) :
    (dispatch services accepts clock runId db).2 = db := by
  unfold dispatch
  rw [getCancellationIntent_bind, if_pos h]
  rfl

theorem dispatch_due {clock : Time} {run : RunRecord}
    (h : (db.cancellationIntents.get runId).map (·.state) ≠ some .pending)
    (hdue : dueRun (db.runs.get runId) clock = some run) :
    (dispatch services accepts clock runId db).2 = (expireQueued run.roomId clock db).2 := by
  unfold dispatch
  rw [getCancellationIntent_bind, if_neg h, getRun_bind, hdue]
  change ((expireQueued run.roomId clock >>= _) db).2 = _
  rcases hx : expireQueued run.roomId clock db with ⟨result, db'⟩
  cases result with
  | error e => rw [bind_error hx]
  | ok runs =>
    rw [bind_ok hx]
    rfl

/-- Sending a row and marking it sent. -/
theorem send_and_mark (clock : Time) (runId : RunId) (delivery : DeliveryRecord) (db : Central) :
    let db' := ((do
      let sent ← send accepts delivery.deviceId runId (.runRequested delivery.payload)
      if sent then
        markSent runId clock
        getByRun runId
      else pure (some delivery) : Db (Option DeliveryRecord)) db).2
    DispatchFrame runId db db' ∧
      db'.emitted = if accepts delivery.deviceId (.runRequested delivery.payload) = true then
          db.emitted ++ [{ deviceId := delivery.deviceId, runId
                           message := .runRequested delivery.payload
                           storedState := (db.runs.get runId).map (·.state) }]
        else db.emitted := by
  intro db'
  have hs := send_apply accepts delivery.deviceId runId (.runRequested delivery.payload) db
  by_cases ha : accepts delivery.deviceId (.runRequested delivery.payload) = true
  · rw [if_pos ha] at hs
    obtain ⟨db₂, hm, hf, he⟩ := markSent_frame runId clock
      { db with emitted := db.emitted ++
          [{ deviceId := delivery.deviceId, runId, message := .runRequested delivery.payload
             storedState := (db.runs.get runId).map (·.state) }] }
    have hdb : db' = db₂ := by
      change ((send accepts delivery.deviceId runId (.runRequested delivery.payload) >>= _) db).2
        = db₂
      rw [bind_ok hs]
      change ((markSent runId clock >>= _) _).2 = db₂
      rw [bind_ok hm]
      rfl
    rw [if_pos ha, hdb]
    exact ⟨⟨hf.runs, hf.intents, hf.deliveries⟩, he⟩
  · rw [if_neg ha] at hs
    have hdb : db' = db := by
      change ((send accepts delivery.deviceId runId (.runRequested delivery.payload) >>= _) db).2
        = db
      rw [bind_ok hs]
      rfl
    rw [if_neg ha, hdb]
    exact ⟨DispatchFrame.refl runId db, rfl⟩

/-- **A dispatch that sends.** Otherwise it changes nothing but its own row; what it emits is one
message for its Run, which is queued or has a row that was pending already. -/
theorem dispatch_sending {clock : Time} (hk : Keyed db)
    (h : (db.cancellationIntents.get runId).map (·.state) ≠ some .pending)
    (hdue : dueRun (db.runs.get runId) clock = none) :
    let db' := (dispatch services accepts clock runId db).2
    DispatchFrame runId db db' ∧
      (db'.emitted = db.emitted ∨ ∃ e, db'.emitted = db.emitted ++ [e] ∧
        e.storedState = (db.runs.get runId).map (·.state) ∧
        ((∃ run, db.runs.get runId = some run ∧ run.state = .queued) ∨
          Sendable accepts db runId)) := by
  intro db'
  have hdb : db' = (dispatch services accepts clock runId db).2 := rfl
  unfold dispatch at hdb
  rw [getCancellationIntent_bind, if_neg h, getRun_bind, hdue] at hdb
  dsimp only at hdb
  cases hrow : db.deliveries.get runId with
  | some delivery =>
    rw [bind_ok (ensure_existing services clock hrow)] at hdb
    dsimp only at hdb
    by_cases hacc : delivery.state = .accepted
    · rw [if_pos hacc] at hdb
      rw [hdb]
      exact ⟨DispatchFrame.refl runId db, .inl rfl⟩
    · rw [if_neg hacc] at hdb
      obtain ⟨hf, he⟩ := send_and_mark accepts clock runId delivery db
      rw [← hdb] at hf he
      refine ⟨hf, ?_⟩
      have hpending : delivery.state = .pending := by
        cases hs : delivery.state with
        | pending => rfl
        | accepted => exact absurd hs hacc
      by_cases ha : accepts delivery.deviceId (.runRequested delivery.payload) = true
      · rw [if_pos ha] at he
        exact .inr ⟨_, he, rfl, .inr ⟨delivery, hrow, hpending, ha⟩⟩
      · rw [if_neg ha] at he
        exact .inl he
  | none =>
    -- no row yet: it is made of a queued Run only
    obtain ⟨hf, he, hq⟩ := ensure_absent services clock hk hrow
    rcases hx : ensure services clock runId db with ⟨result, db₁⟩
    rw [hx] at hf he hq
    have hsame : ∀ db₂, DispatchFrame runId db₁ db₂ → DispatchFrame runId db db₂ :=
      fun db₂ h₂ => ⟨h₂.runs.trans hf.runs, h₂.intents.trans hf.intents,
        fun id hne => (h₂.deliveries id hne).trans (hf.deliveries id hne)⟩
    cases result with
    | error e =>
      rw [bind_error hx] at hdb
      rw [hdb]
      exact ⟨hf, .inl he⟩
    | ok found =>
    rw [bind_ok hx] at hdb
    cases found with
    | none =>
      rw [hdb]
      exact ⟨hf, .inl he⟩
    | some delivery =>
    dsimp only at hdb
    by_cases hacc : delivery.state = .accepted
    · rw [if_pos hacc] at hdb
      rw [hdb]
      exact ⟨hf, .inl he⟩
    · rw [if_neg hacc] at hdb
      obtain ⟨hf₂, he₂⟩ := send_and_mark accepts clock runId delivery db₁
      rw [← hdb] at hf₂ he₂
      refine ⟨hsame _ hf₂, ?_⟩
      by_cases ha : accepts delivery.deviceId (.runRequested delivery.payload) = true
      · rw [if_pos ha, he] at he₂
        exact .inr ⟨_, he₂, by rw [hf.runs], .inl (hq delivery rfl)⟩
      · rw [if_neg ha, he] at he₂
        exact .inl he₂

end Dispatch

/-! ## The queue sweep -/

/-- What expiring some of the Runs `due` leaves alone. -/
structure Expired (due : List RunId) (db db' : Central) : Prop where
  deliveries : db'.deliveries = db.deliveries
  emitted : db'.emitted = db.emitted
  kept : ∀ id run, id ∉ due ∨ run.state.terminal = true →
    db.runs.get id = some run → db'.runs.get id = some run
  stays : ∀ id run, db.runs.get id = some run → ∃ run', db'.runs.get id = some run'
  waiting : ∀ id, (db'.cancellationIntents.get id).map (·.state) = some .pending →
    (db.cancellationIntents.get id).map (·.state) = some .pending

theorem Expired.refl (due : List RunId) (db : Central) : Expired due db db :=
  ⟨rfl, rfl, fun _ _ _ h => h, fun _ run h => ⟨run, h⟩, fun _ h => h⟩

theorem Expired.trans {due : List RunId} {a b c : Central} (h₁ : Expired due a b)
    (h₂ : Expired due b c) : Expired due a c := by
  refine ⟨h₂.deliveries.trans h₁.deliveries, h₂.emitted.trans h₁.emitted, ?_, ?_, ?_⟩
  · intro id run hwhy hget
    exact h₂.kept id run hwhy (h₁.kept id run hwhy hget)
  · intro id run hget
    obtain ⟨run', hget'⟩ := h₁.stays id run hget
    exact h₂.stays id run' hget'
  · intro id hp
    exact h₁.waiting id (h₂.waiting id hp)

variable {due : List RunId}

theorem expired_append {event : RuntimeEvent} {now : Time} (h : Appended id run event now db db')
    (hid : id ∈ due) :
    Expired due db db' := by
  refine ⟨h.deliveries, h.emitted, ?_, ?_, ?_⟩
  · intro id' run' hwhy hget
    have hne : id' ≠ id := by
      rintro rfl
      obtain rfl : run = run' := by simpa [h.get] using hget
      rcases hwhy with hout | hended
      · exact hout hid
      · rw [h.live] at hended
        cases hended
    rw [h.runs, Table.get_put_ne _ _ hne]
    exact hget
  · intro id' run' hget
    rw [h.runs, Table.get_put]
    split
    · exact ⟨_, rfl⟩
    · exact ⟨run', hget⟩
  · intro id' hp
    rw [appended_intents h] at hp
    split at hp
    · next hset =>
        rw [hset.1]
        cases hint : db.cancellationIntents.get id with
        | none =>
          rw [hint] at hp
          cases hp
        | some intent =>
          rw [hint] at hp
          by_cases hpend : intent.state = .pending
          · simp [hpend]
          · simp [RunCancellationIntent.settle, hpend] at hp
    · exact hp

/-- A status event without a clarification or a session is always applied to a live Run. -/
theorem applyRuntimeEvent_plain {id : RunId} {run : RunRecord} {event : StatusEvent}
    (now : Time) {db : Central} (hget : db.runs.get id = some run)
    (hlive : run.state.terminal = false) (hnext : event.sequence = run.lastSequence + 1)
    (hclar : event.clarification = none) (hses : event.session = none) :
    ∃ db', Appended id run (.status event) now db db' ∧
      applyRuntimeEvent id (.status event) now db =
        (.ok { applied := true, run := run.advanced (.status event) now }, db') := by
  rcases applyRuntimeEvent_cases id (.status event) now db with
    ⟨e, he⟩ | ⟨run', hget', hstale, -⟩ | ⟨run', db', happ, hok⟩
  · -- no error: the event is next, and there is nothing to project
    exfalso
    have hproj : ∀ db, projectEvent run (.status event) now db = (.ok (), db) := by
      intro db
      change (whenSome event.clarification _ >>= fun _ => whenSome event.session _) db = _
      rw [hclar, hses]
      rfl
    have hcommit : ∃ a db', commitRuntimeEvent id run (.status event) now db = (.ok a, db') := by
      unfold commitRuntimeEvent insertRunEvent
      rw [modify_bind, bind_ok (hproj _)]
      rw [modify_bind]
      unfold resolveCancellationIntent when
      split <;>
        simp only [modify_bind, pure_bind_apply, getRun_bind, Table.get_put_self, pure_apply] <;>
        exact ⟨_, _, rfl⟩
    obtain ⟨a, db', hcommit⟩ := hcommit
    have hfresh : ¬ ((RuntimeEvent.status event).sequence ≤ run.lastSequence ∨
        run.state.terminal = true) := by
      rintro (hle | hterm)
      · have : event.sequence ≤ run.lastSequence := hle
        omega
      · rw [hlive] at hterm
        cases hterm
    have hgap : ¬ (RuntimeEvent.status event).sequence ≠ run.lastSequence + 1 := not_not.mpr hnext
    unfold applyRuntimeEvent immediate at he
    rw [getRun_bind, hget] at he
    simp only [if_neg hfresh, if_neg hgap, hcommit] at he
    cases he
  · obtain rfl : run = run' := by simpa [hget] using hget'
    rcases hstale with hle | hterm
    · have : event.sequence ≤ run.lastSequence := hle
      omega
    · rw [hlive] at hterm
      cases hterm
  · obtain rfl : run = run' := by simpa [hget] using happ.get
    exact ⟨db', happ, hok⟩

theorem expireQueuedRun_spec (now : Time) (hid : id ∈ due) (hget : db.runs.get id = some run) :
    ∃ run' db', expireQueuedRun now id db = (.ok run', db') ∧ Expired due db db' ∧
      db'.runs.get id = some run' ∧ run'.state.terminal = true := by
  unfold expireQueuedRun
  rw [getRun_bind, hget]
  by_cases hended : run.state.terminal = true
  · refine ⟨run, db, ?_, Expired.refl due db, hget, hended⟩
    exact bind_ok (applyRuntimeEvent_ended hget hended _ now)
  · have hlive : run.state.terminal = false := by simpa using hended
    let event : StatusEvent :=
      { sequence := run.lastSequence + 1, status := .expired, error := some runExpired }
    obtain ⟨db', happ, hok⟩ := @applyRuntimeEvent_plain id run event now db hget hlive rfl rfl rfl
    refine ⟨_, db', bind_ok hok, expired_append happ hid, ?_, rfl⟩
    rw [happ.runs, Table.get_put_self]

/-- The sweep ends every Run it selected. -/
theorem expireAll_spec (now : Time) (ids : List RunId)
    (h : ∀ id ∈ ids, id ∈ due ∧ ∃ run, db.runs.get id = some run) :
    ∃ runs db', forEach (expireQueuedRun now) ids db = (.ok runs, db') ∧ Expired due db db' ∧
      ∀ id ∈ ids, ∃ run, db'.runs.get id = some run ∧ run.state.terminal = true := by
  induction ids generalizing db with
  | nil => exact ⟨[], db, rfl, Expired.refl due db, by simp⟩
  | cons id ids ih =>
    obtain ⟨hid, run, hget⟩ := h id (by simp)
    obtain ⟨run', db₁, hx, hexp, hget', hended⟩ := expireQueuedRun_spec now hid hget
    have hrest : ∀ id' ∈ ids, id' ∈ due ∧ ∃ run, db₁.runs.get id' = some run := by
      intro id' hmem
      obtain ⟨hid', run'', hget''⟩ := h id' (by simp [hmem])
      exact ⟨hid', hexp.stays id' run'' hget''⟩
    obtain ⟨runs, db₂, hxs, hexp₂, hall⟩ := ih hrest
    refine ⟨run' :: runs, db₂, ?_, hexp.trans hexp₂, ?_⟩
    · unfold forEach
      rw [bind_ok hx, bind_ok hxs]
      rfl
    · intro id' hmem
      rcases List.mem_cons.mp hmem with rfl | hrest
      · exact ⟨run', hexp₂.kept _ run' (.inr hended) hget', hended⟩
      · exact hall id' hrest

theorem expireQueued_spec (hk : Keyed db) (roomId : RoomId) (now : Time) :
    ∃ runs db', expireQueued roomId now db = (.ok runs, db') ∧
      Expired (dueQueued db roomId now) db db' ∧
      ∀ id ∈ dueQueued db roomId now, ∃ run, db'.runs.get id = some run ∧
        run.state.terminal = true := by
  refine expireAll_spec now (dueQueued db roomId now) fun id hid => ?_
  obtain ⟨run, hget, -⟩ := mem_dueQueued hk hid
  exact ⟨hid, run, hget⟩

theorem dueQueued_mem (hk : Keyed db) {now : Time} (hget : db.runs.get id = some run)
    (hq : run.state = .queued) (hdue : run.deadlineAt ≤ now) :
    id ∈ dueQueued db run.roomId now := by
  refine List.mem_map.mpr ⟨run, Table.mem_orderBy.mpr (List.mem_filter.mpr ⟨?_, ?_⟩),
    hk id run hget⟩
  · exact Table.mem_rows.mpr ⟨id, hget⟩
  · exact decide_eq_true ⟨rfl, hq, hdue⟩

/-! ## Dispatch keeps the property -/

section Keeps

variable (services : Services) (accepts : DeviceId → BridgeMessage → Bool) {db : Central}

theorem keyed_known_moves {db' : Central} (h : Relation.ReflTransGen (Move K) db db')
    (hk : Keyed db) (hd : DeliveriesKnown db) : Keyed db' ∧ DeliveriesKnown db' := by
  induction h with
  | refl => exact ⟨hk, hd⟩
  | tail _ hlast ih => exact ⟨keyed_move hlast ih.1, deliveriesKnown_move hlast ih.2⟩

theorem dueRun_some {run : RunRecord} {clock : Time} (hq : run.state = .queued)
    (hdue : run.deadlineAt ≤ clock) : dueRun (some run) clock = some run := by
  simp [dueRun, Option.filter, hq, hdue]

theorem dueRun_none {run : RunRecord} {clock : Time}
    (h : run.state ≠ .queued ∨ ¬ run.deadlineAt ≤ clock) : dueRun (some run) clock = none := by
  rcases h with h | h <;> simp [dueRun, Option.filter, h]

theorem onlyLiveSent_append {db' : Central} {e : Emission} (hl : OnlyLiveSent db)
    (h : db'.emitted = db.emitted ++ [e]) (he : e.Live) : OnlyLiveSent db' := by
  intro e' hmem
  rw [h] at hmem
  rcases List.mem_append.mp hmem with hold | hnew
  · exact hl e' hold
  · obtain rfl := List.mem_singleton.mp hnew
    exact he

/-- **One dispatch.** It sends no ended Run if the ended Run has no sendable row. -/
theorem dispatch_live (clock : Time) {runId : RunId} (hk : Keyed db) (hd : DeliveriesKnown db)
    (hl : OnlyLiveSent db) (hsafe : EndedNotSendable accepts db runId) :
    OnlyLiveSent (dispatch services accepts clock runId db).2 := by
  by_cases hwait : (db.cancellationIntents.get runId).map (·.state) = some .pending
  · rw [dispatch_waiting services accepts clock hwait]
    exact hl
  cases hdue : dueRun (db.runs.get runId) clock with
  | some run =>
    rw [dispatch_due services accepts hwait hdue]
    obtain ⟨runs, db', hx, hexp, -⟩ := expireQueued_spec hk run.roomId clock
    rw [hx]
    intro e he
    rw [hexp.emitted] at he
    exact hl e he
  | none =>
    obtain ⟨-, hsame | ⟨e, he, hstate, hwhy⟩⟩ :=
      dispatch_sending services accepts hk hwait hdue
    · intro e he
      rw [hsame] at he
      exact hl e he
    · refine onlyLiveSent_append hl he fun _ => ?_
      rcases hwhy with ⟨run, hget, hq⟩ | hsend
      · refine ⟨run.state, by rw [hstate, hget]; rfl, ?_⟩
        rw [hq]
        rfl
      · have ⟨delivery, hrow, _⟩ := hsend
        obtain ⟨run, hget⟩ := hd runId delivery hrow
        refine ⟨run.state, by rw [hstate, hget]; rfl, ?_⟩
        by_contra hended
        exact hsafe run hget (by simpa using hended) hsend

/-! ## The reconnect sweep -/

/-- The Run falls under one of the Room expiries made so far. -/
def swept (sweeps : List (RoomId × Time)) (run : RunRecord) : Bool :=
  sweeps.any fun s => s.1 = run.roomId && run.deadlineAt ≤ s.2

/-- **When a reconnect sends only live Runs.** Going through the selected rows, a row that is due
at its turn expires its whole Room; no later row that falls under such an expiry is sendable. -/
def SweepSafe (clock : RunId → Time) (db : Central) : List (RoomId × Time) → List RunId → Prop
  | _, [] => True
  | sweeps, id :: rest => match db.runs.get id with
      | none => SweepSafe clock db sweeps rest
      | some run =>
        if swept sweeps run then ¬ Sendable accepts db id ∧ SweepSafe clock db sweeps rest
        else if run.deadlineAt ≤ clock id then
          SweepSafe clock db ((run.roomId, clock id) :: sweeps) rest
        else SweepSafe clock db sweeps rest

/-- Going through the rows decides it. -/
instance sweepSafeDecidable (clock : RunId → Time) (db : Central) :
    (sweeps : List (RoomId × Time)) → (ids : List RunId) →
      Decidable (SweepSafe accepts clock db sweeps ids)
  | _, [] => .isTrue trivial
  | sweeps, id :: rest =>
    match h : db.runs.get id with
    | none =>
      have := sweepSafeDecidable clock db sweeps rest
      decidable_of_iff (SweepSafe accepts clock db sweeps rest) (by simp [SweepSafe, h])
    | some run =>
      have := sweepSafeDecidable clock db sweeps rest
      have := sweepSafeDecidable clock db ((run.roomId, clock id) :: sweeps) rest
      decidable_of_iff
        (if swept sweeps run then
          ¬ Sendable accepts db id ∧ SweepSafe accepts clock db sweeps rest
        else if run.deadlineAt ≤ clock id then
          SweepSafe accepts clock db ((run.roomId, clock id) :: sweeps) rest
        else SweepSafe accepts clock db sweeps rest) (by simp [SweepSafe, h])

/-- What became of a selected Run after the expiries `sweeps`. -/
def Fate (sweeps : List (RoomId × Time)) (run : RunRecord) (now : Option RunRecord) : Prop :=
  ∃ run', now = some run' ∧
    (swept sweeps run = true → run'.state.terminal = true) ∧
    (swept sweeps run = false → run' = run)

/-- The state `s` in the middle of a reconnect that started in `db`, with `ids` to go. -/
structure Sweeping (db s : Central) (sweeps : List (RoomId × Time)) (ids : List RunId) :
    Prop where
  keyed : Keyed s
  known : DeliveriesKnown s
  sent : OnlyLiveSent s
  deliveries : ∀ id ∈ ids, s.deliveries.get id = db.deliveries.get id
  waiting : ∀ id ∈ ids, (s.cancellationIntents.get id).map (·.state) ≠ some .pending
  fate : ∀ id ∈ ids, ∃ run, db.runs.get id = some run ∧ run.state = .queued ∧
    Fate sweeps run (s.runs.get id)

variable {s : Central} {sweeps : List (RoomId × Time)} {id : RunId} {ids : List RunId}

theorem Sweeping.frame {s' : Central} (h : Sweeping db s sweeps (id :: ids)) (hnd : id ∉ ids)
    (hk : Keyed s') (hd : DeliveriesKnown s') (hl : OnlyLiveSent s') (hf : DispatchFrame id s s') :
    Sweeping db s' sweeps ids := by
  refine ⟨hk, hd, hl, ?_, ?_, ?_⟩
  · intro id' hmem
    have hne : id' ≠ id := fun heq => hnd (heq ▸ hmem)
    rw [hf.deliveries id' hne]
    exact h.deliveries id' (by simp [hmem])
  · intro id' hmem
    rw [hf.intents]
    exact h.waiting id' (by simp [hmem])
  · intro id' hmem
    rw [hf.runs]
    exact h.fate id' (by simp [hmem])

/-- An expiry of the Room of a due row covers the rows still to go. -/
theorem Sweeping.expire {s' : Central} (h : Sweeping db s sweeps (id :: ids)) {roomId : RoomId}
    {now : Time} (hk : Keyed s') (hd : DeliveriesKnown s') (hl : OnlyLiveSent s')
    (hexp : Expired (dueQueued s roomId now) s s')
    (hall : ∀ id ∈ dueQueued s roomId now, ∃ run, s'.runs.get id = some run ∧
      run.state.terminal = true) :
    Sweeping db s' ((roomId, now) :: sweeps) ids := by
  refine ⟨hk, hd, hl, ?_, ?_, ?_⟩
  · intro id' hmem
    rw [hexp.deliveries]
    exact h.deliveries id' (by simp [hmem])
  · intro id' hmem hp
    exact h.waiting id' (by simp [hmem]) (hexp.waiting id' hp)
  · intro id' hmem
    obtain ⟨run, hget, hq, run', hnow, hswept, hnot⟩ := h.fate id' (by simp [hmem])
    refine ⟨run, hget, hq, ?_⟩
    by_cases hold : swept sweeps run = true
    · -- it had ended before
      have hended := hswept hold
      refine ⟨run', hexp.kept id' run' (.inr hended) hnow, fun _ => hended, fun hno => ?_⟩
      rw [swept, List.any_cons, Bool.or_eq_false_iff] at hno
      have hfalse : swept sweeps run = false := hno.2
      rw [hold] at hfalse
      cases hfalse
    · have hrun : run' = run := hnot (by simpa using hold)
      subst hrun
      by_cases hnew : roomId = run'.roomId ∧ run'.deadlineAt ≤ now
      · obtain ⟨rfl, hle⟩ := hnew
        obtain ⟨run'', hget'', hended⟩ := hall id' (dueQueued_mem h.keyed hnow hq hle)
        refine ⟨run'', hget'', fun _ => hended, fun hno => ?_⟩
        simp [swept, hle] at hno
      · have hout : id' ∉ dueQueued s roomId now := by
          intro hin
          obtain ⟨run'', hget'', -, hroom, hle⟩ := mem_dueQueued h.keyed hin
          obtain rfl : run' = run'' := by simpa [hnow] using hget''
          exact hnew ⟨hroom.symm, hle⟩
        refine ⟨run', hexp.kept id' run' (.inl hout) hnow, fun hyes => ?_, fun _ => rfl⟩
        exfalso
        rw [swept, List.any_cons, Bool.or_eq_true] at hyes
        rcases hyes with hhead | htail
        · simp only [Bool.and_eq_true, decide_eq_true_eq] at hhead
          exact hnew hhead
        · exact hold htail

variable {clock : RunId → Time}

/-- One pass of the reconnect loop. -/
theorem Sweeping.dispatch (h : Sweeping db s sweeps (id :: ids)) (hnd : id ∉ ids)
    (hsafe : SweepSafe accepts clock db sweeps (id :: ids)) :
    ∃ sweeps', Sweeping db (DeliveryService.dispatch services accepts (clock id) id s).2
      sweeps' ids ∧ SweepSafe accepts clock db sweeps' ids := by
  obtain ⟨run, hget, hq, run', hnow, hswept, hnot⟩ := h.fate id (by simp)
  have hwait := h.waiting id (by simp)
  have hmoves := dispatch_along services accepts (clock id) id h.keyed
  obtain ⟨hk', hd'⟩ := keyed_known_moves hmoves h.keyed h.known
  unfold SweepSafe at hsafe
  rw [hget] at hsafe
  dsimp only at hsafe
  by_cases hover : swept sweeps run = true
  · -- the Run has ended meanwhile: its row must not be sendable
    rw [if_pos hover] at hsafe
    have hended := hswept hover
    have hdue : dueRun (s.runs.get id) (clock id) = none := by
      rw [hnow]
      refine dueRun_none (.inl ?_)
      intro hqueued
      rw [hqueued] at hended
      cases hended
    have hno : EndedNotSendable accepts s id := by
      rintro run'' - - ⟨delivery, hrow, hrest⟩
      rw [h.deliveries id (by simp)] at hrow
      exact hsafe.1 ⟨delivery, hrow, hrest⟩
    have hl' := dispatch_live services accepts (clock id) h.keyed h.known h.sent hno
    have hf := (dispatch_sending services accepts h.keyed hwait hdue).1
    exact ⟨sweeps, h.frame hnd hk' hd' hl' hf, hsafe.2⟩
  · have hrun : run' = run := hnot (by simpa using hover)
    subst hrun
    rw [if_neg hover] at hsafe
    have hno : EndedNotSendable accepts s id := by
      intro run'' hget'' hended
      obtain rfl : run' = run'' := by simpa [hnow] using hget''
      rw [hq] at hended
      cases hended
    have hl' := dispatch_live services accepts (clock id) h.keyed h.known h.sent hno
    by_cases hle : run'.deadlineAt ≤ clock id
    · rw [if_pos hle] at hsafe
      have hdue : dueRun (s.runs.get id) (clock id) = some run' := by
        rw [hnow]
        exact dueRun_some hq hle
      rw [dispatch_due services accepts hwait hdue] at hk' hd' hl' ⊢
      obtain ⟨runs, s', hx, hexp, hall⟩ := expireQueued_spec h.keyed run'.roomId (clock id)
      rw [hx] at hk' hd' hl' ⊢
      exact ⟨_, h.expire hk' hd' hl' hexp hall, hsafe⟩
    · rw [if_neg hle] at hsafe
      have hdue : dueRun (s.runs.get id) (clock id) = none := by
        rw [hnow]
        exact dueRun_none (.inr hle)
      have hf := (dispatch_sending services accepts h.keyed hwait hdue).1
      exact ⟨sweeps, h.frame hnd hk' hd' hl' hf, hsafe⟩

/-- The reconnect loop, from any point of it. -/
theorem sweeping_live (ids : List RunId) (hnd : ids.Nodup) (h : Sweeping db s sweeps ids)
    (hsafe : SweepSafe accepts clock db sweeps ids) :
    OnlyLiveSent (forEach (fun id => DeliveryService.dispatch services accepts (clock id) id)
      ids s).2 := by
  induction ids generalizing s sweeps with
  | nil => exact h.sent
  | cons id ids ih =>
    obtain ⟨hid, hnd'⟩ := List.nodup_cons.mp hnd
    obtain ⟨sweeps', hnext, hsafe'⟩ := h.dispatch services accepts hid hsafe
    unfold forEach
    rcases hx : DeliveryService.dispatch services accepts (clock id) id s with ⟨result, s'⟩
    rw [hx] at hnext
    cases result with
    | error e =>
      rw [bind_error hx]
      exact hnext.sent
    | ok found =>
      rw [bind_ok hx]
      have hrest := ih hnd' hnext hsafe'
      rcases hy : forEach (fun id => DeliveryService.dispatch services accepts (clock id) id)
        ids s' with ⟨result, s''⟩
      rw [hy] at hrest
      cases result with
      | error e =>
        rw [bind_error hy]
        exact hrest
      | ok rows =>
        rw [bind_ok hy]
        exact hrest

theorem mem_queuedForDevice (hk : Keyed db) {deviceId : DeviceId}
    (h : id ∈ queuedForDevice db deviceId) :
    ∃ run, db.runs.get id = some run ∧ run.state = .queued ∧
      (db.cancellationIntents.get id).map (·.state) ≠ some .pending := by
  obtain ⟨run, hmem, rfl⟩ := List.mem_map.mp h
  obtain ⟨hrow, hcond⟩ := List.mem_filter.mp (Table.mem_orderBy.mp hmem)
  obtain ⟨key, hget⟩ := Table.mem_rows.mp hrow
  obtain rfl := hk key run hget
  obtain ⟨-, hq, hwait⟩ := of_decide_eq_true hcond
  exact ⟨run, hget, hq, hwait⟩

theorem queuedForDevice_nodup (hk : Keyed db) (deviceId : DeviceId) :
    (queuedForDevice db deviceId).Nodup := by
  have hperm := Table.orderBy_perm (fun r : RunRecord => [r.createdAt, r.runId])
    (db.runs.rows.filter fun r =>
      ((db.agents.get r.targetAgentId).bind (·.deviceId)) = some deviceId ∧ r.state = .queued ∧
        ((db.cancellationIntents.get r.runId).map (·.state)) ≠ some .pending)
  have hrows : (db.runs.rows.map (·.runId)).Nodup := Table.nodup_rows_map hk
  exact (hperm.map _).nodup_iff.mpr (hrows.sublist (List.filter_sublist.map _))

/-- **A reconnect.** It sends no ended Run if its rows are `SweepSafe`. -/
theorem dispatchQueuedForDevice_live {deviceId : DeviceId} (hk : Keyed db) (hd : DeliveriesKnown db)
    (hl : OnlyLiveSent db) (hsafe : SweepSafe accepts clock db [] (queuedForDevice db deviceId)) :
    OnlyLiveSent (dispatchQueuedForDevice services accepts clock deviceId db).2 := by
  have hstart : Sweeping db db [] (queuedForDevice db deviceId) := by
    refine ⟨hk, hd, hl, fun _ _ => rfl, fun id hmem => ?_, fun id hmem => ?_⟩
    · obtain ⟨run, -, -, hwait⟩ := mem_queuedForDevice hk hmem
      exact hwait
    · obtain ⟨run, hget, hq, -⟩ := mem_queuedForDevice hk hmem
      refine ⟨run, hget, hq, run, hget, fun hyes => ?_, fun _ => rfl⟩
      cases hyes
  have hloop := sweeping_live services accepts _ (queuedForDevice_nodup hk deviceId) hstart hsafe
  unfold dispatchQueuedForDevice
  rw [get_bind]
  rcases hx : forEach (fun id => DeliveryService.dispatch services accepts (clock id) id)
    (queuedForDevice db deviceId) db with ⟨result, s⟩
  rw [hx] at hloop
  cases result with
  | error e =>
    rw [bind_error hx]
    exact hloop
  | ok rows =>
    rw [bind_ok hx]
    exact hloop

end Keeps

/-! ## Whole runs -/

variable {services : Services}

/-- **When a step sends only live Runs.** A dispatch meets no ended Run with a sendable row; a
reconnect is `SweepSafe`. Every other step is free. -/
def StepSafe (label : Label) (db : Central) : Prop :=
  match label with
  | .call accepts (.dispatch _ runId) => EndedNotSendable accepts db runId
  | .call accepts (.dispatchRun _ run) =>
    run.state.terminal = false →
      (db.agents.get run.targetAgentId).any (·.integrationMode = .managed) = true →
        EndedNotSendable accepts db run.runId
  | .call accepts (.dispatchQueuedForDevice clock deviceId) =>
    SweepSafe accepts clock db [] (queuedForDevice db deviceId)
  | _ => True

instance (label : Label) (db : Central) : Decidable (StepSafe label db) := by
  unfold StepSafe
  split <;> infer_instance

/-- The calls that may send work. -/
def Label.dispatches : Label → Bool
  | .call _ (.dispatch ..) | .call _ (.dispatchRun ..) | .call _ (.dispatchQueuedForDevice ..) =>
    true
  | _ => false

theorem sends_dispatches {label : Label} (h : (label.appends services db).sends) :
    label.dispatches = true := by
  cases label with
  | environment => cases h
  | call accepts op => cases op <;> first | rfl | cases h

theorem dispatchRun_live {accepts : DeviceId → BridgeMessage → Bool} {clock : Time} (hk : Keyed db)
    (hd : DeliveriesKnown db) (hl : OnlyLiveSent db) (hsafe : run.state.terminal = false →
      (db.agents.get run.targetAgentId).any (·.integrationMode = .managed) = true →
        EndedNotSendable accepts db run.runId) :
    OnlyLiveSent (dispatchRun services accepts clock run db).2 := by
  unfold dispatchRun
  by_cases hended : run.state.terminal = true
  · rw [if_pos hended]
    exact hl
  rw [if_neg hended, get_bind]
  by_cases hmanaged :
      (db.agents.get run.targetAgentId).any (·.integrationMode = .managed) = true
  · simp only [if_pos hmanaged]
    have hone := dispatch_live services accepts clock hk hd hl
      (hsafe (by simpa using hended) hmanaged)
    rcases hx : DeliveryService.dispatch services accepts clock run.runId db with ⟨result, db'⟩
    rw [hx] at hone
    cases result with
    | error e =>
      rw [bind_error hx]
      exact hone
    | ok found =>
      rw [bind_ok hx]
      exact hone
  · simp only [if_neg hmanaged]
    exact hl

/-- A step that meets `StepSafe` keeps the property. -/
theorem onlyLiveSent_step {label : Label} (hk : Keyed db) (hd : DeliveriesKnown db)
    (hsafe : StepSafe label db) (hs : (central services).step label db db') (hl : OnlyLiveSent db) :
    OnlyLiveSent db' := by
  by_cases hdispatches : label.dispatches = true
  · cases label with
    | environment => cases hdispatches
    | call accepts op =>
    obtain rfl : db' = op.exec services accepts db := hs
    cases op with
    | dispatch clock runId => exact dispatch_live services accepts clock hk hd hl hsafe
    | dispatchRun clock run => exact dispatchRun_live hk hd hl hsafe
    | dispatchQueuedForDevice clock deviceId =>
      exact dispatchQueuedForDevice_live services accepts hk hd hl hsafe
    | _ => cases hdispatches
  · have hquiet : ¬ (label.appends services db).sends := fun h => hdispatches (sends_dispatches h)
    exact onlyLiveSent_quiet hquiet (step_moves hk hs) hl

/-- **Only live Runs are sent.** In every run whose steps all meet `StepSafe`, each `run.requested`
was sent for a Run whose stored state at that moment was not terminal. -/
theorem only_live_sent {db : Central}
    (h : ((central services).restrict StepSafe).Reachable db) : OnlyLiveSent db := by
  have hall : (Keyed db ∧ DeliveriesKnown db) ∧ OnlyLiveSent db := by
    refine System.invariant (fun db => (Keyed db ∧ DeliveriesKnown db) ∧ OnlyLiveSent db) ?_ ?_ h
    · intro db hinit
      have hr : (central services).Reachable db := System.reachable_init hinit
      refine ⟨⟨keyed_reachable hr, deliveriesKnown_reachable hr⟩, ?_⟩
      intro e he
      rw [hinit.2.2.2.2] at he
      cases he
    · rintro label a b ⟨hsafe, hs⟩ ⟨⟨hk, hd⟩, hl⟩
      refine ⟨keyed_known_moves (step_moves hk hs) hk hd, ?_⟩
      exact onlyLiveSent_step hk hd hsafe hs hl
  exact hall.2

/-- Every call of the list meets `StepSafe` in the state it is made in. -/
def CallsSafe (services : Services) :
    List ((DeviceId → BridgeMessage → Bool) × Op) → Central → Prop
  | [], _ => True
  | call :: calls, db =>
    StepSafe (.call call.1 call.2) db ∧
      CallsSafe services calls (call.2.exec services call.1 db)

theorem restricted_after (h : ((central services).restrict StepSafe).Reachable db)
    (calls : List ((DeviceId → BridgeMessage → Bool) × Op)) (hsafe : CallsSafe services calls db) :
    ((central services).restrict StepSafe).Reachable (db.after services calls) := by
  induction calls generalizing db with
  | nil => exact h
  | cons call calls ih =>
    obtain ⟨hcall, hrest⟩ := hsafe
    have hstep : ((central services).restrict StepSafe).step (.call call.1 call.2) db
        (call.2.exec services call.1 db) := ⟨hcall, rfl⟩
    exact ih (System.reachable_step h hstep) hrest

/-- No socket takes anything. -/
def offline : DeviceId → BridgeMessage → Bool := fun _ _ => false

/-- Two Runs of the one Agent are queued while its Device is offline, due at 50. -/
def twoQueued : List ((DeviceId → BridgeMessage → Bool) × Op) :=
  [(online, .createRuns [plainRequest 1 50, plainRequest 2 50]),
   (offline, .dispatch 3 1), (offline, .dispatch 4 2)]

/-- The Device comes back in time: both Runs are sent, while they are queued. -/
theorem reconnect_in_time :
    OnlyLiveSent (oneAgent.after plainServices
      (twoQueued ++ [(online, .dispatchQueuedForDevice (fun _ => 20) 1)])) := by
  refine only_live_sent (restricted_after ?_ _ ?_)
  · exact System.reachable_init (oneAgent_init plainServices)
  · refine ⟨trivial, ?_, ?_, ?_, trivial⟩ <;> decide +kernel

/-- The Device comes back after the deadline: the dispatch of the first row expires both Runs, and
the second is sent. -/
theorem not_onlyLiveSent :
    ¬ ∀ db, (central plainServices).Reachable db → OnlyLiveSent db := by
  intro hall
  have hlive := hall _ (reachable_after (oneAgent_init plainServices)
    (twoQueued ++ [(online, .dispatchQueuedForDevice (fun _ => 60) 1)]))
  have hsent : (oneAgent.after plainServices
      (twoQueued ++ [(online, .dispatchQueuedForDevice (fun _ => 60) 1)])).emitted.map
        (fun e => (e.runId, e.message.isWork, e.storedState)) = [(2, true, some .expired)] := by
    decide +kernel
  obtain ⟨e, hone, he⟩ := List.map_eq_singleton_iff.mp hsent
  simp only [Prod.mk.injEq] at he
  obtain ⟨-, hwork, hstate⟩ := he
  obtain ⟨state, hstored, hnot⟩ := hlive e (by rw [hone]; simp) hwork
  rw [hstate] at hstored
  obtain rfl := Option.some.inj hstored
  cases hnot

end AgentRoom
