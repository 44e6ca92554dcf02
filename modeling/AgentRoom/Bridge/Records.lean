import AgentRoom.Lib.SeqLog
import AgentRoom.Bridge.Connection

/-!
# What an operation does to the inbox

For each inbox operation, every way it can end: refused with the inbox as it was,
answered from what is there, or answered after one record or tombstone was stored.
Later modules use these and never open an operation again.

A record is well formed when its identities agree and its events carry the
sequences `2, 3, …` up to its last one, supplemental evidence aside.
-/

namespace AgentRoom.Bridge

/-! ## Well-formed records -/

/-- The sequences of a record's events, supplemental evidence aside. -/
def Record.sequences (record : Record) : List Nat := record.events.filterMap (·.sequence?)

/-- **A well-formed record** of the Run. -/
structure Record.Wf (runId : String) (record : Record) : Prop where
  id : record.runId = runId
  requestId : record.request.runId = runId
  validRun : isContractRunID runId = true
  validTrace : isContractTraceID record.request.traceId = true
  ungoverned : record.request.governed = false
  /-- Every event is about the Run the record was made for. -/
  identities : ∀ m ∈ record.events, m.identity = record.request.identity
  /-- No gap, no duplicate. -/
  numbered : SeqLog.Numbered 2 record.sequences
  last : record.lastSequence = record.sequences.length + 1

def Record.appended (record : Record) (state : State) (sequence : Nat) (message : OutboxMessage) :
    Record :=
  { record with state, lastSequence := sequence, events := record.events ++ [message] }

/-- The record with supplemental evidence added. -/
def Record.supplemented (record : Record) (value : SupplementalMessage) : Record :=
  { record with events := record.events ++ [.supplemental value] }

def Record.inState (record : Record) (state : State) : Record := { record with state }

/-- The record a first acceptance stores. -/
def Record.admitted (config : Config) (request : RunRequest) : Record where
  runId := request.runId
  idempotencyKey := request.idempotencyKey
  payloadHash := config.hashPayload request
  request := request
  state := .accepted
  lastSequence := 1
  events := []

theorem Record.Wf.admitted (config : Config) {request : RunRequest}
    (hrun : isContractRunID request.runId = true)
    (htrace : isContractTraceID request.traceId = true)
    (hgoverned : request.governed = false) :
    (Record.admitted config request).Wf request.runId where
  id := rfl
  requestId := rfl
  validRun := hrun
  validTrace := htrace
  ungoverned := hgoverned
  identities := by simp [Record.admitted]
  numbered := SeqLog.numbered_nil 2
  last := rfl

/-- The next sequence keeps a record well formed. -/
theorem Record.Wf.appended {runId : String} {record : Record} (h : record.Wf runId) {state : State}
    {message : OutboxMessage} (hseq : message.sequence? = some (record.lastSequence + 1))
    (hid : message.identity = record.request.identity) :
    (record.appended state (record.lastSequence + 1) message).Wf runId := by
  have hseqs : (record.appended state (record.lastSequence + 1) message).sequences =
      record.sequences ++ [record.lastSequence + 1] := by
    simp [Record.appended, Record.sequences, List.filterMap_append, hseq]
  refine { h with identities := ?_, numbered := ?_, last := ?_ }
  · intro m hm
    rcases List.mem_append.mp hm with hm | hm
    · exact h.identities m hm
    · rw [List.mem_singleton.mp hm]
      exact hid
  · rw [hseqs]
    refine h.numbered.append ?_
    have := h.last
    omega
  · have := h.last
    rw [hseqs, List.length_append, List.length_singleton]
    change record.lastSequence + 1 = _
    omega

/-- Evidence that matches the offer keeps a record well formed: it takes no sequence. -/
theorem Record.Wf.supplemented {runId : String} {record : Record} (h : record.Wf runId)
    {value : SupplementalMessage} (hoffer : Inbox.matchesOffer record value = true) :
    (record.supplemented value).Wf runId := by
  have hseqs : (record.supplemented value).sequences = record.sequences := by
    simp [Record.supplemented, Record.sequences, List.filterMap_append, OutboxMessage.sequence?]
  have hid : value.identity = record.request.identity := by
    unfold Inbox.matchesOffer at hoffer
    split at hoffer
    · cases hoffer
    · simp only [Bool.and_eq_true, decide_eq_true_eq] at hoffer
      obtain ⟨⟨⟨⟨-, hrun⟩, htrace⟩, hagent⟩, -⟩ := hoffer
      rcases hv : value.identity with ⟨run, agent, trace⟩
      rw [hv] at hrun htrace hagent
      simp only at hrun htrace hagent
      rw [hrun, htrace, hagent, h.id, ← h.requestId]
      rfl
  refine { h with identities := ?_, numbered := ?_, last := ?_ }
  · intro m hm
    rcases List.mem_append.mp hm with hm | hm
    · exact h.identities m hm
    · rw [List.mem_singleton.mp hm]
      exact hid
  · rw [hseqs]
    exact h.numbered
  · rw [hseqs]
    exact h.last

theorem Record.Wf.inState {runId : String} {record : Record} (h : record.Wf runId) (state : State) :
    (record.inState state).Wf runId :=
  { h with }

/-- Recovery finds nothing wrong with a well-formed record. -/
theorem Record.Wf.valid {runId : String} {record : Record} (h : record.Wf runId) :
    RuntimeExecutor.validateRecoveryRecord record = .ok () := by
  have hevents : ∀ (index : Nat) (events : List OutboxMessage),
      (∀ m ∈ events, m.identity = record.request.identity) →
        RuntimeExecutor.validateEvents record index events = .ok () := by
    intro index events
    induction events generalizing index with
    | nil => intro _; rfl
    | cons m events ih =>
      intro hm
      have hid := hm m (by simp)
      unfold RuntimeExecutor.validateEvents
      rw [hid, if_neg, if_neg]
      · exact ih _ fun m' hm' => hm m' (by simp [hm'])
      · simp [RunRequest.identity, h.validTrace]
      · simp [RunRequest.identity, h.id, h.requestId]
  unfold RuntimeExecutor.validateRecoveryRecord
  rw [if_neg, if_neg]
  · exact hevents 0 record.events h.identities
  · simp [h.validTrace]
  · simp [h.id, h.requestId, h.validRun]

/-! ## The operations -/

namespace Inbox

def store (inbox : Inbox) (runId : String) (record : Record) : Inbox :=
  { inbox with records := inbox.records.put runId record }

theorem get_store_self (inbox : Inbox) (runId : String) (record : Record) :
    (inbox.store runId record).records.get runId = some record :=
  Table.get_put_self ..

variable {runId : String}

theorem get_store_ne (inbox : Inbox) {other : String} (record : Record) (h : other ≠ runId) :
    (inbox.store runId record).records.get other = inbox.records.get other :=
  Table.get_put_ne _ _ h

theorem load_some {inbox : Inbox} {record : Record} (h : inbox.records.get runId = some record) :
    load runId inbox = (.ok record, inbox) := by
  simp [load, h]

theorem load_none {inbox : Inbox} (h : inbox.records.get runId = none) :
    load runId inbox = (.error .notExist, inbox) := by
  simp [load, h]

theorem accept_cases (config : Config) (request : RunRequest) (i : Inbox) :
    (∃ e, accept config request i = (.error e, i)) ∨
    (∃ record, i.records.get request.runId = some record ∧
      accept config request i = (.ok (record, true), i)) ∨
    (i.records.get request.runId = none ∧ isContractRunID request.runId = true ∧
      isContractTraceID request.traceId = true ∧
      accept config request i = (.ok (Record.admitted config request, false),
        i.store request.runId (Record.admitted config request))) := by
  by_cases hrun : isContractRunID request.runId = true
  · by_cases htrace : isContractTraceID request.traceId = true
    · rcases hget : i.records.get request.runId with _ | record
      · refine .inr (.inr ⟨rfl, hrun, htrace, ?_⟩)
        simp [accept, hrun, htrace, hget, replace, store, Record.admitted]
      · by_cases hsame : record.idempotencyKey ≠ request.idempotencyKey ∨
            record.payloadHash ≠ config.hashPayload request
        · exact .inl ⟨.error "duplicate Run payload mismatch", by
            simp [accept, hrun, htrace, hget, hsame]⟩
        · exact .inr (.inl ⟨record, rfl, by simp [accept, hrun, htrace, hget, hsame]⟩)
    · exact .inl ⟨.error "invalid Run trace ID", by simp [accept, hrun, htrace]⟩
  · exact .inl ⟨.error "invalid Run ID", by simp [accept, hrun]⟩

theorem appendEvent_cases (runId : String) (state : State) (sequence : Nat)
    (message : OutboxMessage) (i : Inbox) :
    (∃ e, appendEvent runId state sequence message i = (.error e, i)) ∨
    (∃ record, i.records.get runId = some record ∧ sequence ≤ record.lastSequence ∧
      appendEvent runId state sequence message i = (.ok record, i)) ∨
    (∃ record, i.records.get runId = some record ∧ sequence = record.lastSequence + 1 ∧
      appendEvent runId state sequence message i =
        (.ok (record.appended state sequence message),
          i.store runId (record.appended state sequence message))) := by
  rcases hget : i.records.get runId with _ | record
  · exact .inl ⟨.notExist, by
      unfold appendEvent
      rw [Tx.bind_error (load_none hget)]⟩
  · have happend : appendEvent runId state sequence message i = _ := Tx.bind_ok (load_some hget)
    rw [happend]
    by_cases hle : sequence ≤ record.lastSequence
    · exact .inr (.inl ⟨record, rfl, hle, by simp [hle]⟩)
    · by_cases hnext : sequence = record.lastSequence + 1
      · refine .inr (.inr ⟨record, rfl, hnext, ?_⟩)
        rw [if_neg hle, if_neg (not_not_intro hnext)]
        rfl
      · exact .inl ⟨.error ("Run event sequence gap: " ++ toString sequence), by
          simp [hle, hnext]⟩

theorem appendSupplementalEvidence_cases (runId : String) (value : SupplementalMessage)
    (i : Inbox) :
    (∃ e, appendSupplementalEvidence runId value i = (.error e, i)) ∨
    (∃ record, i.records.get runId = some record ∧
      appendSupplementalEvidence runId value i = (.ok record, i)) ∨
    (∃ record, i.records.get runId = some record ∧ matchesOffer record value = true ∧
      appendSupplementalEvidence runId value i =
        (.ok (record.supplemented value), i.store runId (record.supplemented value))) := by
  rcases hget : i.records.get runId with _ | record
  · exact .inl ⟨.notExist, by
      unfold appendSupplementalEvidence
      rw [Tx.bind_error (load_none hget)]⟩
  · have hrun : appendSupplementalEvidence runId value i = _ := Tx.bind_ok (load_some hget)
    rw [hrun]
    by_cases hoffer : matchesOffer record value = true
    · rw [if_neg (by simp [hoffer])]
      rcases hfound : supplementalFor value.operationId record.events with _ | existing
      · by_cases hreply : hasReply value.sourceReplySequence record.events = true
        · refine .inr (.inr ⟨record, rfl, hoffer, ?_⟩)
          simp [hreply, replace, store, Record.supplemented]
        · exact .inl ⟨.error "supplemental evidence reply was not persisted", by simp [hreply]⟩
      · by_cases hsame : existing = value
        · exact .inr (.inl ⟨record, rfl, by simp [hsame]⟩)
        · exact .inl ⟨.error "supplemental evidence operation identity was reused", by
            simp [hsame]⟩
    · exact .inl ⟨.error "supplemental evidence does not match its frozen offer", by
        simp [hoffer]⟩

theorem transitionLocalState_cases (runId : String) (expected next : State) (i : Inbox) :
    (∃ e, transitionLocalState runId expected next i = (.error e, i)) ∨
    (∃ record, i.records.get runId = some record ∧ record.state = expected ∧
      transitionLocalState runId expected next i =
        (.ok (record.inState next), i.store runId (record.inState next))) := by
  rcases hget : i.records.get runId with _ | record
  · exact .inl ⟨.notExist, by
      unfold transitionLocalState
      rw [Tx.bind_error (load_none hget)]⟩
  · have hrun : transitionLocalState runId expected next i = _ := Tx.bind_ok (load_some hget)
    rw [hrun]
    by_cases hstate : record.state = expected
    · exact .inr ⟨record, rfl, hstate, by simp [hstate, replace, store, Record.inState]⟩
    · exact .inl ⟨stateChanged record.state expected, by simp [hstate]⟩

theorem recordCancellation_cases (requested : RunCancelRequest) (i : Inbox) :
    (∃ e, recordCancellation requested i = (.error e, i)) ∨
    (i.tombstones.get requested.runId = some (tombstoneOf requested) ∧
      recordCancellation requested i = (.ok (tombstoneOf requested), i)) ∨
    recordCancellation requested i = (.ok (tombstoneOf requested),
      { i with tombstones := i.tombstones.put requested.runId (tombstoneOf requested) }) := by
  unfold recordCancellation
  split
  · exact .inl ⟨_, rfl⟩
  · rw [Tx.get_bind]
    split
    · exact .inl ⟨_, rfl⟩
    · rcases hget : i.tombstones.get requested.runId with _ | existing
      · exact .inr (.inr rfl)
      · by_cases hsame : existing = tombstoneOf requested
        · subst hsame
          exact .inr (.inl ⟨rfl, by simp⟩)
        · exact .inl ⟨.error "Run cancellation tombstone mismatch", by simp [hsame]⟩

theorem hasCancellation_cases (request : RunRequest) (i : Inbox) :
    (∃ e, hasCancellation request i = (.error e, i)) ∨
    (i.tombstones.get request.runId = none ∧ hasCancellation request i = (.ok false, i)) ∨
    ((i.tombstones.get request.runId).isSome ∧ hasCancellation request i = (.ok true, i)) := by
  by_cases hrun : isContractRunID request.runId = true
  · rcases hget : i.tombstones.get request.runId with _ | tombstone
    · exact .inr (.inl ⟨rfl, by simp [hasCancellation, hrun, hget]⟩)
    · by_cases hsame : tombstone.runId ≠ request.runId ∨ tombstone.traceId ≠ request.traceId ∨
          tombstone.agentId ≠ request.targetAgentId
      · exact .inl ⟨.error "Run cancellation tombstone identity mismatch", by
          simp [hasCancellation, hrun, hget, hsame]⟩
      · exact .inr (.inr ⟨rfl, by simp [hasCancellation, hrun, hget, hsame]⟩)
  · exact .inl ⟨.error "invalid Run ID", by simp [hasCancellation, hrun]⟩

theorem clearCancellation_cases (runId : String) (i : Inbox) :
    (∃ e, clearCancellation runId i = (.error e, i)) ∨
    clearCancellation runId i = (.ok (), { i with tombstones := i.tombstones.remove runId }) := by
  by_cases hrun : isContractRunID runId = true
  · exact .inr (by simp [clearCancellation, hrun])
  · exact .inl ⟨.error "invalid Run ID", by simp [clearCancellation, hrun]⟩

theorem quarantineIncompatibleTrace_cases (runId : String) (i : Inbox) :
    (∃ e, quarantineIncompatibleTrace runId i = (.error e, i)) ∨
    quarantineIncompatibleTrace runId i =
      (.ok (), { i with records := i.records.remove runId }) := by
  by_cases hrun : isContractRunID runId = true
  · rcases hget : i.records.get runId with _ | record
    · exact .inl ⟨.error "protect incompatible trace inbox record", by
        simp [quarantineIncompatibleTrace, hrun, hget]⟩
    · exact .inr (by simp [quarantineIncompatibleTrace, hrun, hget])
  · exact .inl ⟨.error "invalid Run ID", by simp [quarantineIncompatibleTrace, hrun]⟩

theorem update_cases (runId : String) (state : State) (sequence : Nat) (i : Inbox) :
    (∃ result, update runId state sequence i = (result, i)) ∨
    (∃ record, i.records.get runId = some record ∧
      update runId state sequence i = (.ok { record with state, lastSequence := sequence },
        i.store runId { record with state, lastSequence := sequence })) := by
  rcases hget : i.records.get runId with _ | record
  · exact .inl ⟨.error .notExist, by
      unfold update
      rw [Tx.bind_error (load_none hget)]⟩
  · have hrun : update runId state sequence i = _ := Tx.bind_ok (load_some hget)
    rw [hrun]
    by_cases hle : sequence ≤ record.lastSequence
    · exact .inl ⟨.ok record, by simp [hle]⟩
    · exact .inr ⟨record, rfl, by
        rw [if_neg hle]
        rfl⟩

theorem list_cases (i : Inbox) :
    (∃ e, list i = (.error e, i)) ∨
    list i = (.ok (i.records.rows.insertionSort fun a b =>
      fileName a.runId ≤ fileName b.runId), i) := by
  unfold list
  rw [Tx.get_bind]
  generalize List.find? _ _ = invalid
  cases invalid with
  | none => exact .inr rfl
  | some record => exact .inl ⟨_, rfl⟩

end Inbox

/-! ## Performing an operation -/

/-- **What an inbox operation does to the inbox**, if it does anything. -/
inductive Effect (config : Config) : InboxOp → Inbox → Inbox → Prop
  | nothing {op : InboxOp} {i : Inbox} : Effect config op i i
  | admission {request : RunRequest} {i : Inbox} (absent : i.records.get request.runId = none)
      (run : isContractRunID request.runId = true)
      (trace : isContractTraceID request.traceId = true) :
      Effect config (.accept request) i
        (i.store request.runId (Record.admitted config request))
  | append {runId : String} {state : State} {message : OutboxMessage} {record : Record} {i : Inbox}
      (held : i.records.get runId = some record) :
      Effect config (.appendEvent runId state (record.lastSequence + 1) message) i
        (i.store runId (record.appended state (record.lastSequence + 1) message))
  | supplement {runId : String} {value : SupplementalMessage} {record : Record} {i : Inbox}
      (held : i.records.get runId = some record) (offer : Inbox.matchesOffer record value = true) :
      Effect config (.appendSupplementalEvidence runId value) i
        (i.store runId (record.supplemented value))
  | quarantine {runId : String} {i : Inbox} :
      Effect config (.quarantineIncompatibleTrace runId) i
        { i with records := i.records.remove runId }
  | update {runId : String} {state : State} {sequence : Nat} {record : Record} {i : Inbox}
      (held : i.records.get runId = some record) :
      Effect config (.update runId state sequence) i
        (i.store runId { record with state, lastSequence := sequence })
  | transition {runId : String} {next : State} {record : Record} {i : Inbox}
      (held : i.records.get runId = some record) :
      Effect config (.transitionLocalState runId record.state next) i
        (i.store runId (record.inState next))
  | cancel {requested : RunCancelRequest} {i : Inbox} :
      Effect config (.recordCancellation requested) i
        { i with
          tombstones := i.tombstones.put requested.runId (Inbox.tombstoneOf requested) }
  | clear {runId : String} {i : Inbox} :
      Effect config (.clearCancellation runId) i
        { i with tombstones := i.tombstones.remove runId }

theorem InboxOp.effect (config : Config) (op : InboxOp) (i : Inbox) :
    Effect config op i (op.run config i).2 := by
  cases op with
  | accept request =>
    rcases Inbox.accept_cases config request i with ⟨e, h⟩ | ⟨record, -, h⟩ |
      ⟨habsent, hrun, htrace, h⟩
    · rw [InboxOp.run, h]
      exact .nothing
    · rw [InboxOp.run, h]
      exact .nothing
    · rw [InboxOp.run, h]
      exact .admission habsent hrun htrace
  | appendEvent runId state sequence message =>
    rcases Inbox.appendEvent_cases runId state sequence message i with ⟨e, h⟩ |
      ⟨record, -, -, h⟩ | ⟨record, hget, hnext, h⟩
    · rw [InboxOp.run, h]
      exact .nothing
    · rw [InboxOp.run, h]
      exact .nothing
    · subst hnext
      rw [InboxOp.run, h]
      exact .append hget
  | appendSupplementalEvidence runId value =>
    rcases Inbox.appendSupplementalEvidence_cases runId value i with ⟨e, h⟩ | ⟨record, -, h⟩ |
      ⟨record, hget, hoffer, h⟩
    · rw [InboxOp.run, h]
      exact .nothing
    · rw [InboxOp.run, h]
      exact .nothing
    · rw [InboxOp.run, h]
      exact .supplement hget hoffer
  | list =>
    rcases Inbox.list_cases i with ⟨e, h⟩ | h <;> rw [InboxOp.run, h] <;> exact .nothing
  | quarantineIncompatibleTrace runId =>
    rcases Inbox.quarantineIncompatibleTrace_cases runId i with ⟨e, h⟩ | h
    · rw [InboxOp.run, h]
      exact .nothing
    · rw [InboxOp.run, h]
      exact .quarantine
  | update runId state sequence =>
    rcases Inbox.update_cases runId state sequence i with ⟨r, h⟩ | ⟨record, hget, h⟩
    · rw [InboxOp.run, h]
      exact .nothing
    · rw [InboxOp.run, h]
      exact .update hget
  | transitionLocalState runId expected next =>
    rcases Inbox.transitionLocalState_cases runId expected next i with ⟨e, h⟩ |
      ⟨record, hget, hstate, h⟩
    · rw [InboxOp.run, h]
      exact .nothing
    · subst hstate
      rw [InboxOp.run, h]
      exact .transition hget
  | get runId =>
    rcases hget : i.records.get runId with _ | record
    · rw [InboxOp.run, Inbox.load_none hget]
      exact .nothing
    · rw [InboxOp.run, Inbox.load_some hget]
      exact .nothing
  | recordCancellation requested =>
    rcases Inbox.recordCancellation_cases requested i with ⟨e, h⟩ | ⟨-, h⟩ | h
    · rw [InboxOp.run, h]
      exact .nothing
    · rw [InboxOp.run, h]
      exact .nothing
    · rw [InboxOp.run, h]
      exact .cancel
  | hasCancellation request =>
    rcases Inbox.hasCancellation_cases request i with ⟨e, h⟩ | ⟨-, h⟩ | ⟨-, h⟩ <;>
      rw [InboxOp.run, h] <;> exact .nothing
  | clearCancellation runId =>
    rcases Inbox.clearCancellation_cases runId i with ⟨e, h⟩ | h
    · rw [InboxOp.run, h]
      exact .nothing
    · rw [InboxOp.run, h]
      exact .clear

section Performs

variable {config : Config} {i i' : Inbox}

theorem Performs.outside_inbox {op : Op} {response : op.Resp}
    (h : Performs config op i response i') (hop : ∀ o, op ≠ .inbox o) : i' = i := by
  cases h with
  | inbox o => exact absurd rfl (hop o)
  | failedBefore o => exact absurd rfl (hop o)
  | failedAfter o => exact absurd rfl (hop o)
  | outside => rfl

theorem Performs.inbox_cases {op : InboxOp} {response : Except Failure op.Result}
    (h : Performs config (.inbox op) i response i') :
    op.run config i = (response, i') ∨
    (∃ message, response = .error (.error message) ∧ (i' = i ∨ i' = (op.run config i).2)) := by
  cases h with
  | inbox => exact .inl rfl
  | failedBefore _ _ message => exact .inr ⟨message, rfl, .inl rfl⟩
  | failedAfter _ _ message => exact .inr ⟨message, rfl, .inr rfl⟩
  | outside hop => exact absurd rfl (hop op)

theorem Performs.inbox_ok {op : InboxOp} {a : op.Result}
    (h : Performs config (.inbox op) i (.ok a) i') : op.run config i = (.ok a, i') := by
  rcases h.inbox_cases with h | ⟨message, h, -⟩
  · exact h
  · cases h

theorem Performs.effect {op : InboxOp} {response : Except Failure op.Result}
    (h : Performs config (.inbox op) i response i') : Effect config op i i' := by
  rcases h.inbox_cases with h | ⟨message, -, rfl | rfl⟩
  · have := op.effect config i
    rw [h] at this
    exact this
  · exact .nothing
  · exact op.effect config i

end Performs

end AgentRoom.Bridge
