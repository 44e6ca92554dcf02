import AgentRoom.Run.LogInvariant

/-!
# Cancellation intents

A Run has at most one cancellation intent, frozen when the cancellation is
requested: its message, its Agent and its Device never change. The joint invariant
ties it to the Run: a pending intent belongs to a live Run, a resolved one records
the state the Run ended in.

While an intent is pending, a Bridge can only end the Run from the frozen Device.
The server itself can: by the acknowledgement timeout, by a second request for a
Run that waits for input, by the queue deadline, by revoking the Device, or from
another service.
-/

namespace AgentRoom

open RunRepository

/-- The intent agrees with its Run. -/
structure IntentOk (intent : RunCancellationIntent) (run : RunRecord) : Prop where
  pending : intent.state = .pending →
    run.state.terminal = false ∧ intent.terminalStatus = none
  resolved : intent.state = .resolved →
    run.state.terminal = true ∧ intent.terminalStatus = some run.state

/-- **The intent invariant.** -/
def IntentInv (db : Central) : Prop :=
  ∀ id intent, db.cancellationIntents.get id = some intent →
    intent.runId = id ∧ ∃ run, db.runs.get id = some run ∧ IntentOk intent run

/-- What resolving does to an intent. -/
def RunCancellationIntent.settle (intent : RunCancellationIntent) (status : RunState)
    (now : Time) : RunCancellationIntent :=
  if intent.state = .pending then
    { intent with state := .resolved, resolvedAt := some now, terminalStatus := some status }
  else intent

theorem settle_identity (intent : RunCancellationIntent) (status : RunState) (now : Time) :
    (intent.settle status now).runId = intent.runId ∧
    (intent.settle status now).messageId = intent.messageId ∧
    (intent.settle status now).agentId = intent.agentId ∧
    (intent.settle status now).deviceId = intent.deviceId := by
  unfold RunCancellationIntent.settle
  split <;> exact ⟨rfl, rfl, rfl, rfl⟩

theorem resolved_get (intents : Table RunId RunCancellationIntent) (id id' : RunId)
    (status : RunState) (now : Time) :
    (resolved intents id status now).get id' =
      if id' = id then (intents.get id).map (·.settle status now) else intents.get id' := by
  unfold resolved RunCancellationIntent.settle
  cases hget : intents.get id with
  | none =>
    by_cases hid : id' = id
    · subst hid
      simp [hget]
    · simp [hid]
  | some intent =>
    by_cases hid : id' = id
    · subst hid
      by_cases hp : intent.state = .pending <;> simp [hp, hget]
    · by_cases hp : intent.state = .pending <;> simp [hp, hid, Table.get_put]

/-! ## Committed writes -/

variable {K : Allows} {id : RunId} {run : RunRecord} {event : RuntimeEvent} {now : Time}
  {db db' : Central}

theorem appended_intents (h : Appended id run event now db db') (id' : RunId) :
    db'.cancellationIntents.get id' =
      if id' = id ∧ (event.nextState run.state).terminal = true then
        (db.cancellationIntents.get id).map (·.settle (event.nextState run.state) now)
      else db.cancellationIntents.get id' := by
  rw [h.intents]
  by_cases hterm : (event.nextState run.state).terminal = true
  · rw [if_pos hterm, resolved_get]
    by_cases hid : id' = id <;> simp [hid, hterm]
  · rw [if_neg hterm, if_neg (fun hc => hterm hc.2)]

theorem intentInv_append (h : Appended id run event now db db') (hi : IntentInv db) :
    IntentInv db' := by
  intro id' intent hint
  rw [appended_intents h] at hint
  rw [h.runs, Table.get_put]
  by_cases hid : id' = id
  · subst hid
    rw [if_pos rfl]
    by_cases hterm : (event.nextState run.state).terminal = true
    · rw [if_pos ⟨rfl, hterm⟩] at hint
      obtain ⟨old, hold, rfl⟩ := Option.map_eq_some_iff.mp hint
      obtain ⟨hkey, run', hget', hok⟩ := hi id' old hold
      obtain rfl : run = run' := by simpa [h.get] using hget'
      refine ⟨(settle_identity _ _ _).1.trans hkey, _, rfl, ?_⟩
      -- the Run was live, so the intent was pending and is settled now
      have hpend : old.state = .pending := by
        cases hs : old.state with
        | pending => rfl
        | resolved =>
          have := (hok.resolved hs).1
          rw [h.live] at this
          cases this
      constructor
      · intro hp
        simp [RunCancellationIntent.settle, hpend] at hp
      · intro _
        exact ⟨hterm, by simp [RunCancellationIntent.settle, hpend, RunRecord.advanced]⟩
    · rw [if_neg (fun hc => hterm hc.2)] at hint
      obtain ⟨hkey, run', hget', hok⟩ := hi id' intent hint
      obtain rfl : run = run' := by simpa [h.get] using hget'
      refine ⟨hkey, _, rfl, ?_, ?_⟩
      · intro hp
        exact ⟨by simpa [RunRecord.advanced] using hterm, (hok.pending hp).2⟩
      · intro hr
        have := (hok.resolved hr).1
        rw [h.live] at this
        cases this
  · rw [if_neg (fun hc => hid hc.1)] at hint
    rw [if_neg hid]
    exact hi id' intent hint

/-- **Every committed write keeps the intent invariant.** -/
theorem intentInv_move (h : Move K db db') (hi : IntentInv db) :
    IntentInv db' := by
  cases h with
  | append h adm allowed => exact intentInv_append h hi
  | createRun fresh key state sequence terminalAt =>
    rename_i id run
    intro id' intent hint
    obtain ⟨hkey, run', hget', hok⟩ := hi id' intent hint
    -- an intent has its Run, so a new Run has none
    have hne : id' ≠ id := by
      rintro rfl
      rw [fresh] at hget'
      cases hget'
    exact ⟨hkey, run', by rw [Table.get_put_ne _ _ hne]; exact hget', hok⟩
  | openIntent get live first key pending status =>
    rename_i id run intent
    intro id' intent' hint
    rw [Table.get_put] at hint
    split at hint
    · next hid =>
        subst hid
        obtain rfl := Option.some.inj hint
        refine ⟨key, run, get, fun _ => ⟨live, status⟩, fun hr => ?_⟩
        rw [pending] at hr
        cases hr
    · exact hi id' intent' hint
  | settleIntent get ended =>
    rename_i id run now
    intro id' intent' hint
    rw [resolved_get] at hint
    split at hint
    · next hid =>
        subst hid
        -- a settled intent is resolved, and its Run has ended
        obtain ⟨old, hold, rfl⟩ := Option.map_eq_some_iff.mp hint
        obtain ⟨hkey, run', hget', hok⟩ := hi id' old hold
        obtain rfl : run = run' := by simpa [get] using hget'
        refine ⟨(settle_identity _ _ _).1.trans hkey, run, get, ?_, ?_⟩
        · intro hp
          unfold RunCancellationIntent.settle at hp
          split at hp
          · cases hp
          · next hnp => exact absurd hp hnp
        · intro hr
          unfold RunCancellationIntent.settle at hr ⊢
          split
          · exact ⟨ended, rfl⟩
          · next hnp =>
              rw [if_neg hnp] at hr
              exact hok.resolved hr
    · exact hi id' intent' hint
  | touchIntent get pending =>
    rename_i id intent now
    intro id' intent' hint
    rw [Table.get_put] at hint
    split at hint
    · next hid =>
        subst hid
        obtain rfl := Option.some.inj hint
        obtain ⟨hkey, run, hget, hok⟩ := hi id' intent get
        exact ⟨hkey, run, hget, hok.pending, hok.resolved⟩
    · exact hi id' intent' hint
  | deliver known => exact hi
  | send stored allowed => exact hi
  | side h =>
    intro id' intent' hint
    obtain ⟨hkey, run, hget, hok⟩ := hi id' intent' (h.intents ▸ hint)
    exact ⟨hkey, run, by rw [h.runs]; exact hget, hok⟩

theorem intentInv_reachable {services : Services} (h : (central services).Reachable db) :
    IntentInv db := by
  refine central_invariant ?_ (fun _ _ _ => intentInv_move) h
  rintro db ⟨-, -, hints, -⟩ id intent hint
  rw [hints] at hint
  cases hint

/-! ## The frozen identity -/

/-- What a cancellation intent freezes when it is recorded. -/
structure SameIntent (intent intent' : RunCancellationIntent) : Prop where
  message : intent'.messageId = intent.messageId
  agent : intent'.agentId = intent.agentId
  device : intent'.deviceId = intent.deviceId

/-- Every recorded intent is still there, with what it froze. -/
def IntentsKept (db db' : Central) : Prop :=
  ∀ id intent, db.cancellationIntents.get id = some intent →
    ∃ intent', db'.cancellationIntents.get id = some intent' ∧ SameIntent intent intent'

theorem intentsKept_refl (db : Central) : IntentsKept db db :=
  fun _ intent hint => ⟨intent, hint, rfl, rfl, rfl⟩

theorem intentsKept_trans {a b c : Central} (h₁ : IntentsKept a b) (h₂ : IntentsKept b c) :
    IntentsKept a c := by
  intro id intent hint
  obtain ⟨intent', hint', hs'⟩ := h₁ id intent hint
  obtain ⟨intent'', hint'', hs''⟩ := h₂ id intent' hint'
  exact ⟨intent'', hint'', hs''.message.trans hs'.message, hs''.agent.trans hs'.agent,
    hs''.device.trans hs'.device⟩

theorem sameIntent_settle (intent : RunCancellationIntent) (status : RunState) (now : Time) :
    SameIntent intent (intent.settle status now) :=
  ⟨(settle_identity _ _ _).2.1, (settle_identity _ _ _).2.2.1, (settle_identity _ _ _).2.2.2⟩

theorem intentsKept_move (h : Move K db db') : IntentsKept db db' := by
  intro id' intent' hint
  cases h with
  | append h adm allowed =>
    rename_i id run event now
    rw [appended_intents h]
    split
    · next hc =>
        obtain ⟨rfl, -⟩ := hc
        rw [hint]
        exact ⟨_, rfl, sameIntent_settle _ _ _⟩
    · exact ⟨intent', hint, rfl, rfl, rfl⟩
  | openIntent get live first key pending status =>
    rename_i id run intent
    have hne : id' ≠ id := by
      rintro rfl
      rw [first] at hint
      cases hint
    exact ⟨intent', by rw [Table.get_put_ne _ _ hne]; exact hint, rfl, rfl, rfl⟩
  | settleIntent get ended =>
    rename_i id run now
    rw [resolved_get]
    split
    · next hid =>
        subst hid
        rw [hint]
        exact ⟨_, rfl, sameIntent_settle _ _ _⟩
    · exact ⟨intent', hint, rfl, rfl, rfl⟩
  | touchIntent get pending =>
    rename_i id intent now
    rw [Table.get_put]
    split
    · next hid =>
        subst hid
        obtain rfl : intent = intent' := by simpa [get] using hint
        exact ⟨_, rfl, rfl, rfl, rfl⟩
    · exact ⟨intent', hint, rfl, rfl, rfl⟩
  | createRun fresh key state sequence terminalAt => exact ⟨intent', hint, rfl, rfl, rfl⟩
  | deliver known => exact ⟨intent', hint, rfl, rfl, rfl⟩
  | send stored allowed => exact ⟨intent', hint, rfl, rfl, rfl⟩
  | side h => exact ⟨intent', by rw [h.intents]; exact hint, rfl, rfl, rfl⟩

theorem intentsKept_moves (h : Relation.ReflTransGen (Move K) db db') :
    IntentsKept db db' := by
  induction h with
  | refl => exact intentsKept_refl db
  | tail _ hlast ih => exact intentsKept_trans ih (intentsKept_move hlast)

/-! ## Who ends a Run -/

theorem ends_of_nextState {state : RunState} (hlive : state.terminal = false)
    (h : (event.nextState state).terminal = true) :
    event.Ends := by
  obtain ⟨e, rfl, hs⟩ := nextState_not_terminal hlive h
  exact ⟨e, rfl, by rw [hs]; exact h⟩

/-- If a sequence of committed writes ends a Run, one of them appends the event that ends it. -/
theorem ending_append (h : Relation.ReflTransGen (Move K) db db') {run' : RunRecord}
    (hget : db.runs.get id = some run) (hlive : run.state.terminal = false)
    (hget' : db'.runs.get id = some run') (hended : run'.state.terminal = true) :
    ∃ mid runₘ event, Relation.ReflTransGen (Move K) db mid ∧ mid.runs.get id = some runₘ ∧
      runₘ.state.terminal = false ∧ K mid id runₘ event ∧ event.Ends ∧
      event.nextState runₘ.state = run'.state := by
  induction h generalizing run' with
  | refl =>
    obtain rfl : run = run' := by simpa [hget] using hget'
    rw [hlive] at hended
    cases hended
  | tail hpre hlast ih =>
    rename_i mid last
    cases hlast with
    | append h adm allowed =>
      rename_i id₀ run₀ event now
      rw [h.runs, Table.get_put] at hget'
      split at hget'
      · next hid =>
          subst hid
          obtain rfl := Option.some.inj hget'
          exact ⟨mid, run₀, event, hpre, h.get, h.live, allowed,
            ends_of_nextState h.live hended, rfl⟩
      · exact ih hget' hended
    | createRun fresh key state sequence terminalAt =>
      rw [Table.get_put] at hget'
      split at hget'
      · obtain rfl := Option.some.inj hget'
        rw [state] at hended
        cases hended
      · exact ih hget' hended
    | openIntent get live first key pending status => exact ih hget' hended
    | settleIntent get ended => exact ih hget' hended
    | touchIntent get pending => exact ih hget' hended
    | deliver known => exact ih hget' hended
    | send stored allowed => exact ih hget' hended
    | side h => exact ih (h.runs ▸ hget') hended

/-- Writes that only append ending events leave a live Run as it was. -/
theorem live_kept {mid : Central} (h : Relation.ReflTransGen (Move K) db mid)
    (hK : ∀ db id run event, K db id run event → event.Ends) {runₘ : RunRecord}
    (hget : db.runs.get id = some run) (hgetₘ : mid.runs.get id = some runₘ)
    (hlive : runₘ.state.terminal = false) : runₘ.state = run.state := by
  induction h generalizing runₘ with
  | refl =>
    obtain rfl : run = runₘ := by simpa [hget] using hgetₘ
    rfl
  | tail hpre hlast ih =>
    cases hlast with
    | append h adm allowed =>
      rw [h.runs, Table.get_put] at hgetₘ
      split at hgetₘ
      · obtain rfl := Option.some.inj hgetₘ
        obtain ⟨e, rfl, hterm⟩ := hK _ _ _ _ allowed
        simp only [RunRecord.advanced, RuntimeEvent.nextState] at hlive
        rw [hterm] at hlive
        cases hlive
      · exact ih hgetₘ hlive
    | createRun fresh key state sequence terminalAt =>
      rename_i b id₀ run₀
      rw [Table.get_put] at hgetₘ
      split at hgetₘ
      · next hid =>
          -- the Run was there from the start
          subst hid
          obtain ⟨run', hget', -⟩ := later_moves hpre id run hget
          rw [fresh] at hget'
          cases hget'
      · exact ih hgetₘ hlive
    | openIntent get live first key pending status => exact ih hgetₘ hlive
    | settleIntent get ended => exact ih hgetₘ hlive
    | touchIntent get pending => exact ih hgetₘ hlive
    | deliver known => exact ih hgetₘ hlive
    | send stored allowed => exact ih hgetₘ hlive
    | side h => exact ih (h.runs ▸ hgetₘ) hlive

/-- The calls that expire queued Runs. -/
def Op.expiresQueue : Op → Bool
  | .expireQueued _ _ | .dispatch _ _ | .dispatchRun _ _ | .dispatchQueuedForDevice _ _ => true
  | _ => false

/-- **What can end a Run with a pending intent.** `before` is the Run's state before the step,
`after` the terminal state it leaves. -/
inductive EndedBy (id : RunId) (intent : RunCancellationIntent) (before after : RunState) :
    Label → Prop
  /-- A terminal report, and only from the Device frozen in the intent. -/
  | frozenDevice {accepts principal input now} (device : principal.deviceId = intent.deviceId)
      (run : input.identity.runId = id) (status : input.status.toRunState = after) :
      EndedBy id intent before after (.call accepts (.applyStatus principal input now))
  | ackTimeout {accepts now sentBefore limit deviceId} (due : intent.ackDeadlineAt ≤ now)
      (status : after = .outcomeUnknown) :
      EndedBy id intent before after
        (.call accepts (.sweepCancellations now sentBefore limit deviceId))
  | canceledWaiting {accepts messageId memberId reason now ackDeadlineAt}
      (waiting : before = .inputRequired) (status : after = .canceled) :
      EndedBy id intent before after
        (.call accepts (.requestCancellation id messageId memberId reason now ackDeadlineAt))
  | queueExpiry {accepts op} (sweep : op.expiresQueue = true) (queued : before = .queued)
      (status : after = .expired) : EndedBy id intent before after (.call accepts op)
  | deviceRevoked {accepts deviceId now} (status : after = .failed ∨ after = .outcomeUnknown) :
      EndedBy id intent before after (.call accepts (.revokeDevice deviceId now))
  | otherService {accepts change now} (run : change.runId = id)
      (status : change.event.status.toRunState = after) :
      EndedBy id intent before after (.call accepts (.transition change now))

theorem mem_dueCancellationIntents (hi : IntentInv db) {limit : Nat}
    (h : id ∈ dueCancellationIntents db now limit) {intent : RunCancellationIntent}
    (hint : db.cancellationIntents.get id = some intent) : intent.ackDeadlineAt ≤ now := by
  obtain ⟨row, hmem, rfl⟩ := List.mem_map.mp h
  obtain ⟨hrow, hcond⟩ :=
    List.mem_filter.mp (Table.mem_orderBy.mp (List.mem_of_mem_take hmem))
  obtain ⟨key, hget⟩ := Table.mem_rows.mp hrow
  obtain ⟨hkey, -⟩ := hi key row hget
  subst hkey
  obtain rfl : row = intent := by simpa [hget] using hint
  exact (of_decide_eq_true hcond).2

theorem bridgeTerminal_of_terminal {status : RuntimeStatus} (hb : status.fromBridge = true)
    (ht : status.toRunState.terminal = true) : status.bridgeTerminal = true := by
  cases status with
  | completed => rfl
  | failed => rfl
  | canceled => rfl
  | outcomeUnknown => rfl
  | expired => cases hb
  | delivered => cases hb
  | working => cases ht
  | inputRequired => cases ht

section EndedBy

variable {services : Services} {db db' : Central} {id : RunId} {intent : RunCancellationIntent}
  {run run' : RunRecord} {accepts : DeviceId → BridgeMessage → Bool}

theorem ended_by_queueExpiry
    (hm : Relation.ReflTransGen (Move DeliveryService.AnyQueueExpiry) db db')
    (hget : db.runs.get id = some run) (hlive : run.state.terminal = false)
    (hget' : db'.runs.get id = some run') (hended : run'.state.terminal = true) :
    run.state = .queued ∧ run'.state = .expired := by
  obtain ⟨mid, runₘ, event, hpre, hgetₘ, hliveₘ, ⟨hq, rfl⟩, -, hstate⟩ :=
    ending_append hm hget hlive hget' hended
  have hkept := live_kept hpre (by rintro _ _ _ _ ⟨-, rfl⟩; exact ⟨_, rfl, rfl⟩) hget hgetₘ hliveₘ
  exact ⟨hkept ▸ hq, hstate.symm⟩

/-- A terminal report ends a Run with a pending intent only from the frozen Device. -/
theorem ended_by_report {principal : DevicePrincipal} {input : StatusInput} {now : Time}
    (hm : Relation.ReflTransGen
      (Move (BridgeRunEventService.StatusAppends services principal input)) db db')
    (hint : db.cancellationIntents.get id = some intent)
    (hget : db.runs.get id = some run) (hlive : run.state.terminal = false)
    (hget' : db'.runs.get id = some run') (hended : run'.state.terminal = true) :
    EndedBy id intent run.state run'.state (.call accepts (.applyStatus principal input now)) := by
  obtain ⟨mid, runₘ, event, hpre, -, -, ⟨hid, rfl, hbridge, hown⟩, hends, hstate⟩ :=
    ending_append hm hget hlive hget' hended
  -- the intent is still there, with its Device, when the report is applied
  obtain ⟨intent', hint', hsame⟩ := intentsKept_moves hpre id intent hint
  have hterm : input.status.bridgeTerminal = true := by
    obtain ⟨e, he, ht⟩ := hends
    obtain rfl := RuntimeEvent.status.inj he
    exact bridgeTerminal_of_terminal hbridge ht
  rw [hterm] at hown
  refine .frozenDevice ?_ hid.symm hstate
  rw [← hsame.device]
  exact (hown.frozen (hid ▸ hint')).symm

/-- **Who ends a Run with a pending intent.** -/
theorem pending_ended_by (h : (central services).Reachable db) {label : Label}
    (hs : (central services).step label db db')
    (hint : db.cancellationIntents.get id = some intent) (hp : intent.state = .pending)
    (hget : db.runs.get id = some run) (hget' : db'.runs.get id = some run')
    (hended : run'.state.terminal = true) : EndedBy id intent run.state run'.state label := by
  have hk := keyed_reachable h
  have hi := intentInv_reachable h
  obtain ⟨-, run₀, hget₀, hok⟩ := hi id intent hint
  obtain rfl : run = run₀ := by simpa [hget] using hget₀
  have hlive := (hok.pending hp).1
  have hm := step_moves hk hs
  -- each operation of the server ends Runs in its own way, or in none
  cases label with
  | environment =>
    obtain ⟨mid, runₘ, event, -, -, -, hK, -⟩ := ending_append hm hget hlive hget' hended
    exact hK.elim
  | call accepts op =>
  cases op with
  | createRuns requests =>
    obtain ⟨mid, runₘ, event, -, -, -, hK, -⟩ := ending_append hm hget hlive hget' hended
    exact hK.elim
  | sendCancellation sentAt runId =>
    obtain ⟨mid, runₘ, event, -, -, -, hK, -⟩ := ending_append hm hget hlive hget' hended
    exact hK.elim
  | accept principal runId traceId agentId sequence now receipts failure =>
    obtain ⟨mid, runₘ, event, -, -, -, ⟨-, -, rfl⟩, hends, -⟩ :=
      ending_append hm hget hlive hget' hended
    obtain ⟨e, he, ht⟩ := hends
    obtain rfl := RuntimeEvent.status.inj he
    cases ht
  | applyReply principal input now =>
    obtain ⟨mid, runₘ, event, -, -, hliveₘ, ⟨-, hsame, -⟩, -, hstate⟩ :=
      ending_append hm hget hlive hget' hended
    rw [← hstate, hsame, hliveₘ] at hended
    cases hended
  | applyActivity principal input now =>
    obtain ⟨mid, runₘ, event, -, -, hliveₘ, ⟨-, hsame, -⟩, -, hstate⟩ :=
      ending_append hm hget hlive hget' hended
    rw [← hstate, hsame, hliveₘ] at hended
    cases hended
  | applyOutput principal input now =>
    obtain ⟨mid, runₘ, event, -, -, hliveₘ, ⟨-, hsame, -⟩, -, hstate⟩ :=
      ending_append hm hget hlive hget' hended
    rw [← hstate, hsame, hliveₘ] at hended
    cases hended
  | applyStatus principal input now => exact ended_by_report hm hint hget hlive hget' hended
  | requestCancellation runId messageId memberId reason now ackDeadlineAt =>
    obtain ⟨mid, runₘ, event, hpre, hgetₘ, hliveₘ, ⟨rfl, rfl, hwhy⟩, -, hstate⟩ :=
      ending_append hm hget hlive hget' hended
    -- a waiting Run is canceled by a second request at once
    have hkept := live_kept hpre (by rintro _ _ _ _ ⟨-, rfl, -⟩; exact ⟨_, rfl, rfl⟩)
      hget hgetₘ hliveₘ
    rcases hwhy with hwait | ⟨-, -, hnone⟩
    · exact .canceledWaiting (hkept ▸ hwait) hstate.symm
    · -- a pending intent is still there
      obtain ⟨intent', hint', -⟩ := intentsKept_moves hpre _ _ hint
      rw [hnone] at hint'
      cases hint'
  | sweepCancellations now sentBefore limit deviceId =>
    obtain ⟨mid, runₘ, event, -, -, -, ⟨hdue, -, rfl⟩, -, hstate⟩ :=
      ending_append hm hget hlive hget' hended
    exact .ackTimeout (mem_dueCancellationIntents hi hdue hint) hstate.symm
  | expireQueued roomId now =>
    have hq := ended_by_queueExpiry (moves_allow hm (fun _ _ _ _ h => h.2)
      (nomatch ·)) hget hlive hget' hended
    exact .queueExpiry rfl hq.1 hq.2
  | dispatch clock runId =>
    have hq := ended_by_queueExpiry (moves_allow hm (fun _ _ _ _ h =>
      DeliveryService.DispatchAppends.any h) (fun h => h))
      hget hlive hget' hended
    exact .queueExpiry rfl hq.1 hq.2
  | dispatchRun clock run =>
    have hq := ended_by_queueExpiry (moves_allow hm (fun _ _ _ _ h =>
      DeliveryService.DispatchAppends.any h) (fun h => h))
      hget hlive hget' hended
    exact .queueExpiry rfl hq.1 hq.2
  | dispatchQueuedForDevice clock deviceId =>
    have hq := ended_by_queueExpiry hm hget hlive hget' hended
    exact .queueExpiry rfl hq.1 hq.2
  | revokeDevice deviceId now =>
    obtain ⟨mid, runₘ, event, -, -, -, ⟨affected, -, -, rfl⟩, -, hstate⟩ :=
      ending_append hm hget hlive hget' hended
    refine .deviceRevoked ?_
    rw [← hstate]
    cases affected.acceptedByBridge <;> simp [RuntimeEvent.nextState, RuntimeStatus.toRunState,
      DeviceRevocationService.revocationStatus]
  | transition change now =>
    obtain ⟨mid, runₘ, event, -, -, -, ⟨hid, rfl⟩, -, hstate⟩ :=
      ending_append hm hget hlive hget' hended
    exact .otherService hid.symm hstate

end EndedBy

/-! ## Agreement -/

/-- **Cancellation intents agree with their Runs.** In every reachable state a Run has at most one
intent, a pending intent means the Run is live, and a resolved one records the Run's terminal
state. In every later state the intent is still there under the same message, Agent and Device. A
step that ends a Run with a pending intent is one of those of `EndedBy`. -/
theorem cancellation_intent_agreement {services : Services} {db : Central}
    (h : (central services).Reachable db) :
    (∀ i ∈ db.cancellationIntents.rows, ∀ j ∈ db.cancellationIntents.rows,
      i.runId = j.runId → i = j) ∧
    ∀ id intent, db.cancellationIntents.get id = some intent →
      ∃ run, db.runs.get id = some run ∧
        (intent.state = .pending → run.state.terminal = false) ∧
        (intent.state = .resolved →
          run.state.terminal = true ∧ intent.terminalStatus = some run.state) ∧
        (∀ db', (central services).Steps db db' → ∃ intent',
          db'.cancellationIntents.get id = some intent' ∧ SameIntent intent intent') ∧
        ∀ label db', (central services).step label db db' → intent.state = .pending →
          ∀ run', db'.runs.get id = some run' → run'.state.terminal = true →
            EndedBy id intent run.state run'.state label := by
  have hi := intentInv_reachable h
  refine ⟨?_, fun id intent hint => ?_⟩
  · intro i hmi j hmj hij
    obtain ⟨ki, hgi⟩ := Table.mem_rows.mp hmi
    obtain ⟨kj, hgj⟩ := Table.mem_rows.mp hmj
    obtain rfl := (hi ki i hgi).1
    obtain rfl := (hi kj j hgj).1
    rw [hij, hgj] at hgi
    exact (Option.some.inj hgi).symm
  obtain ⟨-, run, hget, hok⟩ := hi id intent hint
  refine ⟨run, hget, fun hp => (hok.pending hp).1, hok.resolved, fun db' hs => ?_, ?_⟩
  · exact central_run intentsKept_refl (fun _ _ _ => intentsKept_trans)
      (fun _ _ _ => intentsKept_move) h hs id intent hint
  · intro label db' hs hp run' hget' hended
    exact pending_ended_by h hs hint hp hget hget' hended

/-- Two Runs of one Room are sent, and the second is canceled while it is queued. -/
def canceledWhileQueued : List ((DeviceId → BridgeMessage → Bool) × Op) :=
  [(online, .createRuns [plainRequest 1 1000, plainRequest 2 1000]),
   (online, .dispatch 10 1),
   (online, .dispatch 11 2),
   (online, .requestCancellation 2 500 1 "stop" 20 30000)]

/-- The agreement, at a state with a pending intent. -/
theorem canceledWhileQueued_agreement :
    ∃ intent run, (oneAgent.after plainServices canceledWhileQueued).cancellationIntents.get 2 =
        some intent ∧ intent.state = .pending ∧
      (oneAgent.after plainServices canceledWhileQueued).runs.get 2 = some run ∧
      run.state.terminal = false := by
  have h := reachable_after (oneAgent_init plainServices) canceledWhileQueued
  obtain ⟨intent, hint⟩ : ∃ intent, (oneAgent.after plainServices
      canceledWhileQueued).cancellationIntents.get 2 = some intent := ⟨_, rfl⟩
  have hp : intent.state = .pending := by
    obtain rfl := Option.some.inj hint
    rfl
  obtain ⟨run, hget, hlive, -⟩ := (cancellation_intent_agreement h).2 2 intent hint
  exact ⟨intent, run, hint, hp, hget, hlive hp⟩

/-- The stronger property: while an intent is pending, only the frozen Device and the
acknowledgement timeout end the Run. -/
def OnlyFrozenDeviceEnds (services : Services) : Prop :=
  ∀ db db' label id intent run run', (central services).Reachable db →
    (central services).step label db db' → db.cancellationIntents.get id = some intent →
    intent.state = .pending → db.runs.get id = some run → db'.runs.get id = some run' →
    run'.state.terminal = true →
    (∃ accepts principal input now, label = .call accepts (.applyStatus principal input now) ∧
      principal.deviceId = intent.deviceId) ∨
    (∃ accepts now sentBefore limit deviceId,
      label = .call accepts (.sweepCancellations now sentBefore limit deviceId) ∧
      run'.state = .outcomeUnknown)

/-- A reconnect after the queue deadline dispatches the first Run, which expires every due Run of
the Room, the one with the pending intent included. -/
theorem not_onlyFrozenDeviceEnds : ¬ OnlyFrozenDeviceEnds plainServices := by
  intro hall
  have h := reachable_after (oneAgent_init plainServices) canceledWhileQueued
  rcases hall _ (Op.exec plainServices online (.dispatchQueuedForDevice (fun _ => 2000) 1)
      (oneAgent.after plainServices canceledWhileQueued))
      (.call online (.dispatchQueuedForDevice (fun _ => 2000) 1)) 2 _ _ _ h rfl rfl rfl rfl rfl rfl
    with ⟨accepts, principal, input, now, hl, -⟩ | ⟨accepts, now, before, limit, device, hl, -⟩
  · cases hl
  · cases hl

end AgentRoom
