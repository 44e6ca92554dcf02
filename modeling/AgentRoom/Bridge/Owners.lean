import AgentRoom.Bridge.Ownership

/-!
# The programs of the Bridge are owners

Every program of the executor and of the handler keeps to the grip it starts with:
a worker to the record of its Run, a cancellation of an inactive Run to the record
of that Run, and the recovery of a record to that record.
-/

namespace AgentRoom.Bridge

open RuntimeExecutor

section Owners

variable {config : Config} {polite : Prop} {runId : String} {g : Grip} {record : Record}

/-- The grip holds the record, which is well formed. -/
structure Grip.Holds (runId : String) (g : Grip) (record : Record) : Prop where
  held : g.record = some record
  wf : record.Wf runId

theorem Grip.Holds.live (h : g.Holds runId record) :
    g.live = !isCancellationTerminalState record.state := by
  simp [Grip.live, h.held]

theorem Grip.Holds.not_live (h : g.Holds runId record)
    (hended : isCancellationTerminalState record.state = true) : g.live = false := by
  rw [h.live, hended]
  rfl

/-! ## Senders -/

theorem owned_toSocket (values : List Outgoing) :
    Owned config polite runId g (toSocket values)
      fun g' _ => g' = { g with sent := g.sent ++ values } := by
  induction values generalizing g with
  | nil => exact owned_ret (by simp)
  | cons value values ih =>
    change Owned _ _ _ _ (send value >>= fun _ => toSocket values) _
    refine owned_send ?_
    refine owned_mono ih fun g' _ hg' => ?_
    rw [hg']
    simp

/-- What the sender writes to the socket of what it is handed. -/
def HandsOver (config : Config) (polite : Prop) (runId : String) (sender : Sender)
    (written : List Outgoing → List Outgoing) : Prop :=
  ∀ g values, Owned config polite runId g (sender values)
    fun g' _ => g' = { g with sent := g.sent ++ written values }

theorem handsOver_toSocket : HandsOver config polite runId toSocket id :=
  fun _ values => owned_toSocket values

theorem handsOver_collect : HandsOver config polite runId collect fun _ => [] :=
  fun _ _ => owned_ret (by simp)

/-! ## Replay and terminal reports -/

variable {sender : Sender} {written : List Outgoing → List Outgoing}

theorem owned_replay {id : String} (hid : id = runId)
    (hsender : HandsOver config polite runId sender written) (h : g.Holds runId record) :
    Owned config polite runId g (replay config id sender) fun g' values =>
      values = replayEvents config record ∧ g' = { g with sent := g.sent ++ written values } := by
  refine owned_get hid fun latest hlatest hw => ?_
  obtain rfl := Option.mem_unique h.held hlatest
  rw [h.wf.valid]
  refine owned_ofExcept_ok (owned_bind (hsender g _) fun g' _ hg' => ?_)
  exact owned_ret ⟨rfl, hg'⟩

/-- The record once its cancellation is persisted. -/
def Record.canceled (record : Record) : Record :=
  record.appended .canceled (record.lastSequence + 1)
    (statusMessage record (record.lastSequence + 1) .canceled none)

def canceledEvent (record : Record) : Outgoing :=
  .event (statusMessage record (record.lastSequence + 1) .canceled none)

/-- The cancellation report of a record: the grip it leaves and the values it handed over. -/
structure ReportsCanceled (written : List Outgoing → List Outgoing) (g : Grip) (record : Record)
    (g' : Grip) (values : List Outgoing) : Prop where
  grip : g' = { g with record := some record.canceled, sent := g.sent ++ written values }
  reported : canceledEvent record ∈ values

theorem canceledEvent_mem_replay (config : Config) (record : Record) :
    canceledEvent record ∈ replayEvents config record.canceled := by
  unfold replayEvents
  refine List.mem_map.mpr ⟨statusMessage record (record.lastSequence + 1) .canceled none, ?_, ?_⟩
  · simp [Record.canceled, Record.appended]
  · unfold canceledEvent statusMessage
    split <;> rfl

theorem owned_persistCanceled (hsender : HandsOver config polite runId sender written)
    (h : g.Holds runId record) (hlive : isCancellationTerminalState record.state = false) :
    Owned config polite runId g (persistCanceled config record sender)
      (ReportsCanceled written g record) := by
  refine owned_append h.wf.id h.held hlive (fun _ => rfl) (by simp) rfl rfl fun hw => ?_
  by_cases haccepted : record.state = .accepted
  · rw [if_pos haccepted]
    refine owned_bind (hsender _ _) fun g' _ hg' => ?_
    exact owned_ret ⟨hg', by simp [canceledEvent]⟩
  · rw [if_neg haccepted]
    refine owned_mono (owned_replay hw.id hsender ⟨rfl, hw⟩) fun g' values hvalues => ?_
    obtain ⟨hvalues, hg'⟩ := hvalues
    exact ⟨hg', by rw [hvalues]; exact canceledEvent_mem_replay config record⟩

/-- What `CancelQueued` leaves of a record: canceled if it had not ended. -/
structure CancelsQueued (written : List Outgoing → List Outgoing) (g : Grip) (record : Record)
    (g' : Grip) (values : List Outgoing) : Prop where
  ended : ∃ record', g'.record = some record' ∧ isCancellationTerminalState record'.state = true
  sent : g'.sent = g.sent ++ written values
  canceled : record.state = .accepted ∨ record.state = .working →
    g'.record = some record.canceled ∧ canceledEvent record ∈ values

theorem ReportsCanceled.cancelsQueued {g' : Grip} {values : List Outgoing}
    (h : ReportsCanceled written g record g' values) :
    CancelsQueued written g record g' values where
  ended := ⟨record.canceled, by rw [h.grip], rfl⟩
  sent := by rw [h.grip]
  canceled _ := ⟨by rw [h.grip], h.reported⟩

theorem owned_cancelQueued (hsender : HandsOver config polite runId sender written)
    (h : g.Holds runId record) :
    Owned config polite runId g (cancelQueued config record sender)
      (CancelsQueued written g record) := by
  refine owned_get h.wf.id fun latest hlatest hw => ?_
  obtain rfl := Option.mem_unique h.held hlatest
  by_cases hended : isCancellationTerminalState record.state = true
  · rw [if_pos hended]
    refine owned_mono (owned_replay h.wf.id hsender h) fun g' values hvalues => ?_
    obtain ⟨-, hg'⟩ := hvalues
    refine ⟨⟨record, by rw [hg']; exact h.held, hended⟩, by rw [hg'], ?_⟩
    rintro (hstate | hstate) <;> rw [hstate] at hended <;> cases hended
  · rw [if_neg hended]
    have hlive : isCancellationTerminalState record.state = false := by simpa using hended
    by_cases hpreparing : record.state = .preparing
    · rw [if_pos hpreparing]
      refine owned_transition h.wf.id (.inl ⟨rfl, rfl⟩) fun latest hlatest' hstate hw' => ?_
      refine owned_mono (owned_persistCanceled hsender ⟨rfl, hw'⟩ rfl) fun g' values hg' => ?_
      refine ⟨⟨_, by rw [hg'.grip], rfl⟩, by rw [hg'.grip], ?_⟩
      rintro (hs | hs) <;> rw [hpreparing] at hs <;> cases hs
    · rw [if_neg hpreparing]
      by_cases hactive : record.state = .accepted ∨ record.state = .working ∨
          record.state = .inputRequired
      · rw [if_pos hactive]
        exact owned_mono (owned_persistCanceled hsender h hlive) fun g' values hg' =>
          hg'.cancelsQueued
      · rw [if_neg hactive]
        exact owned_error

variable {request : RunRequest}

theorem owned_clearTerminalCancellationFence (hid : request.runId = runId) :
    Owned config polite runId g (clearTerminalCancellationFence request) fun _ _ => True := by
  refine owned_get hid fun latest hlatest hw => ?_
  by_cases hended : isCancellationTerminalState latest.state = true
  · rw [if_pos hended]
    have hnot : g.live = false := Grip.Holds.not_live ⟨hlatest, hw⟩ hended
    refine owned_hasCancellation hid ?_ ?_
    · rw [if_pos rfl]
      exact owned_last (owned_clear hid hnot (owned_ret trivial))
    · exact owned_ret trivial
  · rw [if_neg hended]
    exact owned_ret trivial

variable {code : String}

theorem owned_failBeforeRuntime {messageText : String}
    (hsender : HandsOver config polite runId sender written) (h : g.Holds runId record) :
    Owned config polite runId g (failBeforeRuntime config record sender code messageText)
      fun _ _ => True := by
  refine owned_get h.wf.id fun latest hlatest hw => ?_
  obtain rfl := Option.mem_unique h.held hlatest
  by_cases hterminal : isTerminalState record.state = true
  · rw [if_pos hterminal]
    exact owned_mono (owned_replay h.wf.id hsender h) fun _ _ _ => trivial
  · rw [if_neg hterminal]
    have hlive := live_of_not_terminal hterminal
    have hwaits : record.state ≠ .inputRequired := fun heq => hterminal (by rw [heq]; rfl)
    refine owned_append h.wf.id h.held hlive (fun heq => absurd heq hwaits) (by simp) rfl rfl
      fun hw' => ?_
    refine owned_bind (hsender _ _) fun g' _ hg' => ?_
    refine owned_bind (owned_clearTerminalCancellationFence h.wf.requestId) fun _ _ _ => ?_
    exact owned_ret trivial

theorem owned_emitUnknown (h : g.Holds runId record)
    (hterminal : ¬ isTerminalState record.state = true) :
    Owned config polite runId g (emitUnknown record code) fun _ _ => True := by
  have hlive := live_of_not_terminal hterminal
  have hwaits : record.state ≠ .inputRequired := fun heq => hterminal (by rw [heq]; rfl)
  refine owned_append h.wf.id h.held hlive (fun heq => absurd heq hwaits) (by simp) rfl rfl
    fun hw' => ?_
  refine owned_send ?_
  exact owned_clearTerminalCancellationFence h.wf.requestId

/-! ## Running the adapter -/

/-- **In step with the adapter.** The record is at or behind the numbering of the emitted events,
and the Run was not fenced when it was admitted. -/
structure InStep (request : RunRequest) (sequence : Nat) (g : Grip) : Prop where
  held : ∃ record, g.record = some record ∧ record.request = request ∧
    record.lastSequence ≤ sequence
  unfenced : g.unfenced = true

/-- An operation takes at most one number, and only an appended event takes one. -/
theorem InStep.next {request : RunRequest} {sequence : Nat} {op : Op}
    (h : InStep request sequence g)
    (ho : Owns polite runId g op) {response : op.Resp} {g' : Grip}
    (hn : (ownership config polite runId).next g op response g') :
    InStep request (sequence + 1) g' ∧
      ((∀ id state n message, op ≠ .inbox (.appendEvent id state n message)) →
        InStep request sequence g') := by
  obtain ⟨record, hheld, hrequest, hle⟩ := h.held
  obtain ⟨⟨before, after, hbefore, hp, rfl, -⟩, -⟩ := hn
  have hunfenced : (g.after runId op response (after.records.get runId)).unfenced = true := by
    simp [Grip.after, h.unfenced]
  obtain ⟨record', hget, hrequest', hlast⟩ := owns_sequence ho hbefore hp hheld
  refine ⟨⟨⟨record', hget, hrequest'.trans hrequest, ?_⟩, hunfenced⟩, fun hop => ?_⟩
  · rcases hlast with hlast | ⟨hlast, -⟩ <;> omega
  · rcases hlast with hlast | ⟨-, id, state, n, message, heq⟩
    · exact ⟨⟨record', hget, hrequest'.trans hrequest, by omega⟩, hunfenced⟩
    · exact absurd heq (hop id state n message)

/-- The program ends in step, whether it fails or not. -/
def EndsInStep (request : RunRequest) (sequence : Nat) {α : Type} (g : Grip)
    (_ : Except Failure α) : Prop :=
  InStep request sequence g

variable {sequence : Nat} {α : Type}

theorem inStep_op {op : Op} {k : op.Resp → Prog α} (h : InStep request sequence g)
    (ho : Owns polite runId g op)
    (hop : ∀ id state n message, op ≠ .inbox (.appendEvent id state n message))
    (hk : ∀ response g', InStep request sequence g' →
      Proc.Keeps (ownership config polite runId) (EndsInStep request sequence) g' (k response)) :
    Proc.Keeps (ownership config polite runId) (EndsInStep request sequence) g (.call op k) :=
  Proc.keeps_call ho fun response g' hn => hk response g' ((h.next ho hn).2 hop)

theorem inStep_send {value : Outgoing} (h : InStep request sequence g) :
    Proc.Keeps (ownership config polite runId) (EndsInStep request sequence) g (send value) := by
  refine inStep_op h trivial (fun _ _ _ _ hop => by cases hop) fun response g' hg' => ?_
  cases response <;> exact hg'

/-- What an emitted message needs to be persisted with the next number. -/
structure Emits (polite : Prop) (record : Record) (g : Grip) (s : Emitting)
    (message : OutboxMessage) : Prop where
  inStep : InStep record.request (s.sequence - 1) g
  pos : 0 < s.sequence
  sequence : message.sequence? = some s.sequence
  identity : message.identity = record.request.identity
  state : s.currentState ≠ .preparing
  open_ : polite → ∀ r, g.record = some r → isTerminalState r.state = true →
    r.lastSequence + 1 ≠ s.sequence

variable {s : Emitting} {message : OutboxMessage}

theorem Emits.owns (h : Emits polite record g s message) (hid : record.runId = runId) :
    Owns polite runId g (.inbox (.appendEvent record.runId s.currentState s.sequence message)) := by
  obtain ⟨r, hheld, hrequest, -⟩ := h.inStep.held
  have hidentity : message.identity = r.request.identity := by
    rw [hrequest]
    exact h.identity
  have hopen : s.sequence = r.lastSequence + 1 → isTerminalState r.state = true → ¬ polite :=
    fun hseq hterminal hpolite => h.open_ hpolite r hheld hterminal hseq.symm
  refine ⟨hid, h.sequence, h.state, r, hheld, hidentity, fun hseq => ⟨fun hended => ?_,
    fun hwaits => .inr (hopen hseq (by rw [hwaits]; rfl))⟩⟩
  exact ⟨h.inStep.unfenced, hopen hseq (terminal_of_ended hended)⟩

theorem inStep_append (h : Emits polite record g s message) (hid : record.runId = runId) :
    Proc.Keeps (ownership config polite runId) (EndsInStep record.request s.sequence) g
      (inbox (.appendEvent record.runId s.currentState s.sequence message)) := by
  refine Proc.keeps_call (h.owns hid) fun response g' hn => ?_
  have hstep : InStep record.request s.sequence g' := by
    have := (h.inStep.next (h.owns hid) hn).1
    rwa [Nat.sub_add_cancel h.pos] at this
  cases response <;> exact hstep

theorem inStep_bind {β : Type} {x : Prog β} {f : β → Prog α}
    (hx : Proc.Keeps (ownership config polite runId) (EndsInStep request sequence) g x)
    (hf : ∀ b g', InStep request sequence g' →
      Proc.Keeps (ownership config polite runId) (EndsInStep request sequence) g' (f b)) :
    Proc.Keeps (ownership config polite runId) (EndsInStep request sequence) g (x >>= f) := by
  refine Proc.keeps_bind hx ?_ ?_
  · intro g' b hg'
    exact hf b g' hg'
  · intro _ _ hg'
    exact hg'

theorem inStep_persistAndSend (h : Emits polite record g s message) (hid : record.runId = runId) :
    Proc.Keeps (ownership config polite runId) (EndsInStep record.request s.sequence) g
      (persistAndSend record s.currentState s.sequence message) :=
  inStep_bind (inStep_append h hid) fun _ _ hg' => inStep_send hg'

theorem inStep_emitStatus (h : Emits polite record g s message) (hid : record.runId = runId) :
    Proc.Keeps (ownership config polite runId) (EndsInStep record.request s.sequence) g
      (emitStatus record s message) := by
  refine inStep_bind (inStep_append h hid) fun r g' hg' => ?_
  rcases record.request.supplementalOffer with _ | offer
  · exact inStep_send hg'
  · dsimp only
    by_cases hoffer : s.currentState = .completed ∧ 0 < s.lastReplySequence
    · rw [if_pos hoffer]
      refine inStep_bind ?_ fun _ _ hg'' =>
        inStep_bind (inStep_send hg'') fun _ _ hq => inStep_send hq
      refine inStep_op hg' hid (fun _ _ _ _ hop => by cases hop) fun response g'' hg'' => ?_
      cases response <;> exact hg''
    · rw [if_neg hoffer]
      exact inStep_send hg'

variable {n : Nat}

theorem InStep.mono {m : Nat} (h : InStep request m g) (hmn : m ≤ n) :
    InStep request n g := by
  obtain ⟨r, hheld, hrequest, hle⟩ := h.held
  exact ⟨⟨r, hheld, hrequest, by omega⟩, h.unfenced⟩

/-- The emit callback ends with its variables in step. -/
def EndsEmitting (record : Record) (g : Grip) (r : Except Failure Emitting) : Prop :=
  ∃ s, r = .ok s ∧ InStep record.request s.sequence g ∧ s.currentState ≠ .preparing

theorem endsEmitting_pure (h : InStep record.request s.sequence g)
    (hstate : s.currentState ≠ .preparing) :
    Proc.Keeps (ownership config polite runId) (EndsEmitting record) g (pure s) :=
  ⟨s, rfl, h, hstate⟩

theorem endsEmitting_attempt {x : Prog α} {f : Except Failure α → Prog Emitting}
    (hx : Proc.Keeps (ownership config polite runId) (EndsInStep record.request n) g x)
    (hf : ∀ r g', InStep record.request n g' →
      Proc.Keeps (ownership config polite runId) (EndsEmitting record) g' (f r)) :
    Proc.Keeps (ownership config polite runId) (EndsEmitting record) g (x.attempt >>= f) := by
  have hattempt : Proc.Keeps (ownership config polite runId)
      (fun q (r : Except Failure (Except Failure α)) =>
        (∃ a, r = .ok a) ∧ InStep record.request n q) g x.attempt :=
    Proc.keeps_attempt hx fun _ r hq => ⟨⟨r, rfl⟩, hq⟩
  refine Proc.keeps_bind hattempt ?_ ?_
  · intro q r hq
    exact hf r q hq.2
  · rintro q e ⟨⟨a, ha⟩, -⟩
    cases ha

variable {artifacts : List ArtifactAlias}

theorem keeps_emit {event : RuntimeEvent} (hid : record.runId = runId)
    (h : InStep record.request s.sequence g) (hstate : s.currentState ≠ .preparing)
    (hpolite : polite → ∀ r, g.record = some r → isTerminalState r.state = true →
      r.lastSequence = s.sequence → persistable config artifacts event = false) :
    Proc.Keeps (ownership config polite runId) (EndsEmitting record) g
      (emit config record artifacts s event) := by
  have hnext : InStep record.request (s.sequence + 1) g := h.mono (by omega)
  -- what is persisted here is an event the adapter may still emit
  have hemits : ∀ {state : State} {message : OutboxMessage},
      persistable config artifacts event = true → state ≠ .preparing →
      message.sequence? = some (s.sequence + 1) → message.identity = record.request.identity →
      Emits polite record g
        { s with sequence := s.sequence + 1, currentState := state } message := by
    intro state message hpersistable hstate' hsequence hidentity
    refine ⟨h, Nat.succ_pos _, hsequence, hidentity, hstate', fun hp r hr hended hlast => ?_⟩
    have := hpolite hp r hr hended (Nat.succ.inj hlast)
    rw [hpersistable] at this
    cases this
  unfold emit
  by_cases hwithheld : withheld config event = true
  · rw [if_pos hwithheld]
    exact endsEmitting_pure h hstate
  · rw [if_neg hwithheld]
    rcases hstatus : event.status with _ | status
    · rcases hactivity : event.activity with _ | activity
      · rcases houtput : event.output with _ | output
        · dsimp only
          by_cases hreply : event.reply = ""
          · rw [if_pos hreply]
            exact endsEmitting_pure hnext hstate
          · rw [if_neg hreply]
            refine endsEmitting_attempt (inStep_append (hemits ?_ hstate rfl rfl) hid)
              fun persisted g' hg' => ?_
            · simp [persistable, hwithheld, hstatus, hactivity, houtput, hreply]
            · cases persisted with
              | error e => exact endsEmitting_pure hg' hstate
              | ok r =>
                refine endsEmitting_attempt (inStep_send hg') fun _ g'' hg'' => ?_
                exact endsEmitting_pure hg'' hstate
        · dsimp only
          by_cases hcontent : output.content = ""
          · rw [if_pos hcontent]
            exact endsEmitting_pure hnext hstate
          · rw [if_neg hcontent]
            refine endsEmitting_attempt (inStep_persistAndSend (hemits ?_ hstate rfl rfl) hid)
              fun _ _ hg' => endsEmitting_pure hg' hstate
            simp [persistable, hwithheld, hstatus, hactivity, houtput, hcontent]
      · dsimp only
        by_cases hvalid : validActivity (config.redactRuntimeText artifacts) activity = true
        · rw [if_pos hvalid]
          refine endsEmitting_attempt (inStep_persistAndSend (hemits ?_ hstate rfl rfl) hid)
            fun _ _ hg' => endsEmitting_pure hg' hstate
          simp [persistable, hwithheld, hstatus, hactivity, hvalid]
        · rw [if_neg hvalid]
          exact endsEmitting_pure hnext hstate
    · have hstate' : stateForStatus status ≠ .preparing := by cases status <;> simp [stateForStatus]
      refine endsEmitting_attempt (inStep_emitStatus (hemits ?_ hstate' rfl rfl) hid)
        fun _ _ hg' => endsEmitting_pure hg' hstate'
      simp [persistable, hwithheld, hstatus]

/-- **The adapter's events**, as many as it emits. -/
theorem keeps_emissions (hid : record.runId = runId) (count : Nat)
    (h : InStep record.request s.sequence g) (hstate : s.currentState ≠ .preparing) :
    Owned config polite runId g (emissions config record artifacts count s)
      fun g' _ => ∃ n, InStep record.request n g' := by
  induction count generalizing g s with
  | zero => exact owned_ret ⟨_, h⟩
  | succ count ih =>
    have ho : Owns polite runId g (.runtimeEvent record.runId artifacts s.sequence) := hid
    refine Proc.keeps_call ho fun event g' hn => ?_
    have hop : ∀ id state n message,
        Op.runtimeEvent record.runId artifacts s.sequence ≠
          .inbox (.appendEvent id state n message) := fun _ _ _ _ hop => by cases hop
    have hstep := (h.next ho hn).2 hop
    -- the adapter is polite about the record its event is persisted to
    have hpolite : polite → ∀ r, g'.record = some r →
        isTerminalState r.state = true → r.lastSequence = s.sequence →
        persistable config artifacts event = false := by
      obtain ⟨⟨before, after, hbefore, hp, rfl, hpolite⟩, -⟩ := hn
      intro hpol r hr
      have hsame : after = before := hp.outside_inbox fun _ hop => by cases hop
      have hget : before.records.get record.runId = some r := by
        rw [hid, ← hsame]
        exact hr
      exact hpolite hpol r hget
    refine Proc.keeps_bind (keeps_emit hid hstep hstate hpolite) ?_ ?_
    · rintro q s' ⟨s'', hs, hstep', hstate'⟩
      cases hs
      exact ih hstep' hstate'
    · rintro q e ⟨s'', hs, -⟩
      cases hs

theorem owned_afterRuntime (h : record.Wf runId) (err : Option Failure) :
    Owned config polite runId g (afterRuntime record err) fun _ _ => True := by
  cases err with
  | none => exact owned_clearTerminalCancellationFence h.requestId
  | some err =>
    refine owned_get h.id fun latest hlatest hw => ?_
    by_cases hterminal : isTerminalState latest.state = true
    · rw [if_pos hterminal]
      exact owned_fail
    · rw [if_neg hterminal]
      exact owned_emitUnknown ⟨hlatest, hw⟩ hterminal

/-- **The adapter runs once the Run is admitted**: unstarted, unfenced and accepted. -/
theorem owned_execute (adapters : List String) (h : g.Holds runId record)
    (haccepted : record.state = .accepted) (hunstarted : g.unstarted = true)
    (hunfenced : g.unfenced = true) :
    Owned config polite runId g (execute config adapters record) fun _ _ => True := by
  have hterminal : ¬ isTerminalState record.state = true := by rw [haccepted]; nofun
  have hstate : record.state ≠ .preparing := by rw [haccepted]; simp
  unfold execute
  rw [if_neg (by simp [h.wf.ungoverned])]
  refine owned_ask trivial (fun _ hop => by cases hop) rfl (fun _ => rfl) fun resolved => ?_
  cases resolved with
  | error e =>
    refine owned_bind (owned_failBeforeRuntime handsOver_toSocket h) fun _ _ _ => ?_
    exact owned_ret trivial
  | ok artifacts =>
    dsimp only
    by_cases hmissing : record.request.targetAgentId ∉ adapters
    · rw [if_pos hmissing]
      exact owned_emitUnknown h hterminal
    · rw [if_neg hmissing]
      refine Proc.keeps_call ⟨h.wf.id, hunstarted, hunfenced, record, h.held, hstate⟩
        fun count g' hn => ?_
      have hstep : InStep record.request record.lastSequence g' := by
        obtain ⟨⟨before, after, hbefore, hp, rfl, -⟩, -⟩ := hn
        refine ⟨⟨record, ?_, rfl, le_refl _⟩, ?_⟩
        · rw [hp.outside_inbox fun _ hop => by cases hop]
          exact hbefore.trans h.held
        · simp [Grip.after, hunfenced]
      refine owned_bind (keeps_emissions h.wf.id count hstep hstate) fun g'' _ _ => ?_
      refine owned_ask trivial (fun _ hop => by cases hop) rfl (fun _ => rfl) fun err => ?_
      exact owned_afterRuntime h.wf err

/-! ## Deliveries -/

def Grip.HasEnded (g : Grip) : Prop :=
  ∃ record, g.record = some record ∧ isCancellationTerminalState record.state = true

theorem Grip.HasEnded.not_live (h : g.HasEnded) : g.live = false := by
  obtain ⟨r, hheld, hended⟩ := h
  simp [Grip.live, hheld, hended]

/-- The cancellation of an unreported record is reported. -/
theorem owned_reportCanceled {materializationFailed : Bool} (h : g.Holds runId record) :
    Owned config polite runId g (Handler.reportCanceled config record materializationFailed)
      fun g' _ => record.state = .accepted ∨ record.state = .working →
        g'.record = some record.canceled ∧ canceledEvent record ∈ g'.sent := by
  refine owned_bind (owned_cancelQueued handsOver_collect h) fun g₁ terminal h₁ => ?_
  refine owned_send (owned_bind (owned_toSocket terminal) fun g₂ _ h₂ => ?_)
  have hrecord : g₂.record = g₁.record := by rw [h₂]
  have hended : g₂.HasEnded := by
    obtain ⟨r, hr, hterminal⟩ := h₁.ended
    exact ⟨r, hrecord.trans hr, hterminal⟩
  refine owned_last (owned_clear h.wf.id hended.not_live (owned_ret fun hstate => ?_))
  obtain ⟨hcanceled, hreported⟩ := h₁.canceled hstate
  refine ⟨hrecord.trans hcanceled, ?_⟩
  rw [h₂]
  exact List.mem_append_right _ hreported

theorem owned_leavePreparing {P : Grip → α → Prop} {f : Record → Prog α} (h : g.Holds runId record)
    (hf : ∀ g' record', g'.Holds runId record' → g'.unstarted = g.unstarted →
      g'.unfenced = g.unfenced →
      (record.state = .preparing → record'.state = .accepted) →
      (record.state ≠ .preparing → record' = record) →
      Owned config polite runId g' (f record') P) :
    Owned config polite runId g (Handler.leavePreparing record >>= f) P := by
  unfold Handler.leavePreparing
  by_cases hpreparing : record.state = .preparing
  · rw [if_pos hpreparing]
    refine owned_transition h.wf.id (.inl ⟨rfl, rfl⟩) fun r hr hstate hw => ?_
    exact hf _ _ ⟨rfl, hw⟩ rfl rfl (fun _ => rfl) fun hne => absurd hpreparing hne
  · rw [if_neg hpreparing]
    exact hf g record h rfl rfl (fun heq => absurd heq hpreparing) fun _ => rfl

theorem owned_cancelBeforeAdmission (h : g.Holds runId record) :
    Owned config polite runId g (Handler.cancelBeforeAdmission config record)
      fun _ _ => True := by
  refine owned_leavePreparing h fun g' record' h' _ _ _ _ => ?_
  exact owned_mono (owned_reportCanceled h') fun _ _ _ => trivial

theorem owned_cancelDuringPreparation (h : g.Holds runId record) :
    Owned config polite runId g (Handler.cancelDuringPreparation config record)
      fun _ _ => True := by
  refine owned_leavePreparing h fun g' record' h' _ _ _ _ => ?_
  exact owned_mono (owned_reportCanceled h') fun _ _ _ => trivial

theorem owned_cancelAfterAcceptance (h : g.Holds runId record) :
    Owned config polite runId g (Handler.cancelAfterAcceptance config record)
      fun _ _ => True := by
  refine owned_bind (owned_cancelQueued handsOver_toSocket h) fun g' _ h' => ?_
  exact owned_last (owned_clear h.wf.id (Grip.HasEnded.not_live h'.ended) (owned_ret trivial))

theorem owned_handleQueueExit (h : g.Holds runId record) :
    Owned config polite runId g (Handler.handleQueueExit config record) fun _ _ => True := by
  refine owned_explicitCancel fun explicit => ?_
  cases explicit with
  | true => exact owned_cancelAfterAcceptance h
  | false => exact owned_ret trivial

/-- What the answer to `canceledNow` tells: a live Run that is not canceled is not fenced. -/
structure CanceledNow (runId : String) (g : Grip) (record : Record) (g' : Grip) (canceled : Bool) :
    Prop where
  holds : g'.Holds runId record
  unstarted : g'.unstarted = g.unstarted
  unfenced : canceled = false → isCancellationTerminalState record.state = false →
    g'.unfenced = true

theorem owned_canceledNow (h : g.Holds runId record) :
    Owned config polite runId g (Handler.canceledNow record) (CanceledNow runId g record) := by
  refine owned_hasCancellation h.wf.requestId ?_ ?_
  · exact owned_ret ⟨h, rfl, nofun⟩
  · refine owned_last (owned_explicitCancel fun explicit => owned_ret ?_)
    refine ⟨⟨h.held, h.wf⟩, rfl, fun _ hlive => ?_⟩
    simp [h.live, hlive]

/-- An unstarted Run that was accepted may run. -/
theorem owned_runNew (adapters : List String) (h : g.Holds runId record)
    (haccepted : record.state = .accepted) (hunstarted : g.unstarted = true) :
    Owned config polite runId g (Handler.runNew config adapters record) fun _ _ => True := by
  have hlive : isCancellationTerminalState record.state = false := by rw [haccepted]; rfl
  refine owned_bind (owned_canceledNow h) fun g₁ canceled h₁ => ?_
  cases canceled with
  | true => exact owned_cancelAfterAcceptance h₁.holds
  | false =>
    refine owned_acquire fun granted => ?_
    cases granted with
    | false => exact owned_handleQueueExit h₁.holds
    | true =>
      refine owned_bind (owned_canceledNow h₁.holds) fun g₂ canceled h₂ => ?_
      cases canceled with
      | true => exact owned_cancelAfterAcceptance h₂.holds
      | false =>
        have hunstarted' := h₂.unstarted.trans (h₁.unstarted.trans hunstarted)
        exact owned_execute adapters h₂.holds haccepted hunstarted' (h₂.unfenced rfl hlive)

/-- The delivery may start the adapter: it holds an unfinished preparation of an unstarted Run. -/
def MayRun (g : Grip) (record : Record) (duplicate resumePreparing : Bool) : Prop :=
  duplicate = false ∨ resumePreparing = true → record.state = .preparing ∧ g.unstarted = true

variable {duplicate resumePreparing : Bool}

theorem owned_afterPreparation (adapters : List String)
    {prepared : Except PrepareFailure (List Json)} (h : g.Holds runId record)
    (hrun : MayRun g record duplicate resumePreparing) :
    Owned config polite runId g
      (Handler.afterPreparation config adapters record duplicate resumePreparing prepared)
      fun _ _ => True := by
  refine owned_leavePreparing h fun g₁ record₁ h₁ hu₁ _ haccepted _ => ?_
  refine owned_bind (owned_canceledNow h₁) fun g₂ canceled h₂ => ?_
  have hholds := h₂.holds
  cases canceled with
  | true => exact owned_cancelBeforeAdmission hholds
  | false =>
    cases prepared with
    | error failure =>
      refine owned_bind (owned_failBeforeRuntime handsOver_collect hholds)
        fun g₃ terminal _ => ?_
      exact owned_send (owned_mono (owned_toSocket terminal) fun _ _ _ => trivial)
    | ok materializations =>
      refine owned_send ?_
      have hsent : ∀ values, ({ g₂ with sent := values } : Grip).Holds runId record₁ :=
        fun _ => ⟨hholds.held, hholds.wf⟩
      by_cases hduplicate : duplicate = true ∧ resumePreparing = false
      · rw [if_pos hduplicate]
        refine owned_bind (owned_replay hholds.wf.id handsOver_toSocket (hsent _))
          fun _ _ _ => ?_
        exact owned_ret trivial
      · rw [if_neg hduplicate]
        have hmay : duplicate = false ∨ resumePreparing = true := by
          cases duplicate <;> cases resumePreparing <;> simp at hduplicate ⊢
        obtain ⟨hpreparing, hunstarted⟩ := hrun hmay
        refine owned_runNew adapters (hsent _) (haccepted hpreparing) ?_
        exact h₂.unstarted.trans (hu₁.trans hunstarted)

theorem owned_prepareRun (adapters : List String) (h : g.Holds runId record)
    (hrun : MayRun g record duplicate resumePreparing) :
    Owned config polite runId g
      (Handler.prepareRun config adapters record duplicate resumePreparing) fun _ _ => True := by
  refine owned_prepare fun prepared => ?_
  cases prepared with
  | error failure =>
    dsimp only
    by_cases hretryable : failure.retryable = true
    · rw [if_pos hretryable]
      refine owned_explicitCancel fun explicit => ?_
      cases explicit with
      | true => exact owned_cancelDuringPreparation h
      | false => exact owned_fail
    · rw [if_neg hretryable]
      exact owned_afterPreparation adapters h hrun
  | ok materializations => exact owned_afterPreparation adapters h hrun

/-- **A worker owns its Run's record.** Where the record is absent or still being prepared, the
grip must know that the Run is unstarted. -/
theorem owned_handle (adapters : List String) (hid : request.runId = runId)
    (hfresh : (∀ record, g.record = some record → record.state = .preparing) →
      g.unstarted = true) :
    Owned config polite runId g (Handler.handle config adapters request) fun _ _ => True := by
  unfold Handler.handle
  by_cases hgoverned : request.governed = true
  · rw [if_pos hgoverned]
    exact owned_error
  · rw [if_neg hgoverned]
    refine owned_accept hid (by simpa using hgoverned) (fun record hheld hw => ?_)
      fun habsent hw => ?_
    · -- a duplicate runs only where the preparation was left unfinished
      have hrun : ∀ g' : Grip, g'.unstarted = g.unstarted →
          MayRun g' record true (record.state = .preparing) := by
        rintro g' hu (hdup | hresume)
        · cases hdup
        · have hpreparing : record.state = .preparing := by simpa using hresume
          refine ⟨hpreparing, hu.trans (hfresh fun r hr => ?_)⟩
          obtain rfl := Option.mem_unique hheld hr
          exact hpreparing
      refine owned_hasCancellation hw.requestId (owned_cancelBeforeAdmission ⟨hheld, hw⟩) ?_
      exact owned_prepareRun adapters ⟨hheld, hw⟩ (hrun _ rfl)
    · have hunstarted : g.unstarted = true := hfresh fun r hr => by rw [habsent] at hr; cases hr
      refine owned_hasCancellation hw.requestId (owned_cancelBeforeAdmission ⟨rfl, hw⟩) ?_
      refine owned_transition hw.id (.inr ⟨rfl, rfl, hunstarted⟩) fun r hr hstate hw' => ?_
      exact owned_prepareRun adapters ⟨rfl, hw'⟩ fun _ => ⟨rfl, hunstarted⟩

/-! ## Cancellations of inactive Runs -/

variable {requested : RunCancelRequest}

theorem owned_replayCanceledRecord (hid : requested.runId = runId) (h : g.Holds runId record) :
    Owned config polite runId g (replayCanceledRecord config requested record)
      fun _ _ => True := by
  unfold replayCanceledRecord
  rw [h.wf.valid]
  refine owned_ofExcept_ok ?_
  by_cases hmismatch : record.runId ≠ requested.runId ∨
      Inbox.cancellationMatches requested record = false
  · rw [if_pos hmismatch]
    exact owned_error
  · rw [if_neg hmismatch]
    by_cases hlive : isCancellationTerminalState record.state = false
    · rw [if_pos hlive]
      refine owned_recordCancellation hid ?_
      exact owned_mono (owned_reportCanceled h) fun _ _ _ => trivial
    · rw [if_neg hlive]
      rcases record.events.getLast? with _ | terminal
      · exact owned_error
      · dsimp only
        by_cases hconsistent : terminalEventConsistent record terminal = true
        · rw [if_pos hconsistent]
          refine owned_bind (owned_replay h.wf.id handsOver_toSocket h) fun g' _ hg' => ?_
          have hended : g'.HasEnded := ⟨record, by rw [hg'.2]; exact h.held, by simpa using hlive⟩
          exact owned_last (owned_clear h.wf.id hended.not_live (owned_ret trivial))
        · rw [if_neg hconsistent]
          exact owned_error

/-- **The reader owns the record of a Run without a worker.** -/
theorem owned_replayCanceledRun (hid : requested.runId = runId) :
    Owned config polite runId g (replayCanceledRun config requested) fun _ _ => True := by
  refine Proc.keeps_call trivial fun response g' hn => ?_
  obtain ⟨⟨before, after, hbefore, hp, rfl, -⟩, hw⟩ := hn
  subst hid
  rcases hget : before.records.get requested.runId with _ | record
  · have hrun : InboxOp.run config (.get requested.runId) before = (.error .notExist, before) :=
      Inbox.load_none hget
    cases response with
    | ok record =>
      have := hp.inbox_ok
      rw [hrun] at this
      cases this
    | error e =>
      cases e with
      | error message => exact owned_error
      | notExist =>
        -- no record: the tombstone answers for the Run
        have hlive : (g.after requested.runId (.inbox (.get requested.runId))
            (.error .notExist) (after.records.get requested.runId)).live = false := by
          rcases hp.inbox_cases with h | ⟨message, h, -⟩
          · rw [hrun] at h
            cases h
            simp [Grip.after, Grip.live, hget]
          · cases h
        refine owned_recordCancellation rfl (owned_send ?_)
        exact owned_last (owned_clear rfl hlive (owned_ret trivial))
  · have hrun : InboxOp.run config (.get requested.runId) before = (.ok record, before) :=
      Inbox.load_some hget
    cases response with
    | ok record' =>
      have := hp.inbox_ok
      rw [hrun] at this
      cases this
      refine owned_replayCanceledRecord rfl ⟨hget, hw _ hget⟩
    | error e =>
      cases e with
      | error message => exact owned_error
      | notExist =>
        rcases hp.inbox_cases with h | ⟨message, h, -⟩
        · rw [hrun] at h
          cases h
        · cases h

end Owners

end AgentRoom.Bridge
