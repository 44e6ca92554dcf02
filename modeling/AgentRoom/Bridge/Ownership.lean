import AgentRoom.Bridge.Records

/-!
# Who may write a Run's record

At any time one program alone writes the record of a Run: its worker, the reader
while the Run has no worker, or the recovery. Such a program has a grip on the
record. The ownership discipline says what a grip allows, so that everything
proved of the record from it holds of every program that keeps the discipline,
however the programs interleave.

`polite` asks in addition that an adapter emits nothing worth persisting once the
record has ended.
-/

namespace AgentRoom.Bridge

/-! ## Grips -/

/-- **What the owner of a record knows.** -/
structure Grip where
  record : Option Record
  /-- The Run's adapter was never started. -/
  unstarted : Bool
  /-- The Run was not admitted while its tombstone was there. -/
  unfenced : Bool
  /-- What the owner wrote to the socket. -/
  sent : List Outgoing

/-- There is a record, and its Run has not ended. -/
def Grip.live (g : Grip) : Bool :=
  g.record.any fun record => !isCancellationTerminalState record.state

def Grip.Wf (runId : String) (g : Grip) : Prop := ∀ record, g.record = some record → record.Wf runId

/-- The answer that there is no tombstone. -/
def Op.passes (runId : String) : (op : Op) → op.Resp → Bool
  | .inbox (.hasCancellation request), .ok false => request.runId = runId
  | _, _ => false

/-- The grip after an operation that left `record`. -/
def Grip.after (g : Grip) (runId : String) (op : Op) (response : op.Resp)
    (record : Option Record) : Grip where
  record := record
  unstarted := g.unstarted && runId ∉ op.starts
  unfenced := g.unfenced || (op.passes runId response && g.live)
  sent := g.sent ++ op.sends response

/-- An emitted event that the executor tries to persist. -/
def persistable (config : Config) (artifacts : List ArtifactAlias) (event : RuntimeEvent) : Bool :=
  !RuntimeExecutor.withheld config event && match event.status with
    | some _ => true
    | none => match event.activity with
      | some activity => RuntimeExecutor.validActivity (config.redactRuntimeText artifacts) activity
      | none => match event.output with
        | some output => output.content ≠ ""
        | none => event.reply ≠ ""

/-- The adapter does not go on after its Runtime has ended: while the numbering of its events is in
step with a record in a terminal state, what it emits is not persistable. -/
def Polite (config : Config) (inbox : Inbox) : (op : Op) → op.Resp → Prop
  | .runtimeEvent runId artifacts sequence, event =>
    ∀ record, inbox.records.get runId = some record →
      isTerminalState record.state = true → record.lastSequence = sequence →
      persistable config artifacts event = false
  | _, _ => True

/-- **What a grip allows.** -/
def Owns (polite : Prop) (runId : String) (g : Grip) : Op → Prop
  | .inbox (.accept request) => request.runId = runId ∧ request.governed = false
  | .inbox (.appendEvent id state sequence message) =>
    id = runId ∧ message.sequence? = some sequence ∧ state ≠ .preparing ∧
      ∃ record, g.record = some record ∧ message.identity = record.request.identity ∧
        (sequence = record.lastSequence + 1 →
          (isCancellationTerminalState record.state = true → g.unfenced = true ∧ ¬ polite) ∧
          (record.state = .inputRequired → state = .canceled ∨ ¬ polite))
  | .inbox (.appendSupplementalEvidence id _) => id = runId
  | .inbox (.transitionLocalState id expected next) =>
    id = runId ∧ (expected = .preparing ∧ next = .accepted ∨
      expected = .accepted ∧ next = .preparing ∧ g.unstarted = true)
  | .inbox (.recordCancellation requested) => requested.runId = runId
  | .inbox (.clearCancellation id) => id = runId ∧ g.live = false
  | .inbox .list | .inbox (.quarantineIncompatibleTrace _) | .inbox (.update ..) => False
  | .inbox (.get _) | .inbox (.hasCancellation _) => True
  | .startRuntime id =>
    id = runId ∧ g.unstarted = true ∧ g.unfenced = true ∧
      ∃ record, g.record = some record ∧ record.state ≠ .preparing
  | .runtimeEvent id _ _ => id = runId
  | .send _ | .prepare _ | .resolveArtifacts _ | .explicitCancel _ | .acquire _
  | .runtimeReturn _ => True

/-- **The ownership discipline** of a Run. -/
def ownership (config : Config) (polite : Prop) (runId : String) :
    Proc.Discipline bridgeInterface Grip where
  allowed := Owns polite runId
  next g op response g' :=
    (∃ before after, before.records.get runId = g.record ∧
      Performs config op before response after ∧
      g' = g.after runId op response (after.records.get runId) ∧
      (polite → Polite config before op response)) ∧
    g'.Wf runId

/-! ## What the owner does to the record -/

/-- **The moves of an owned record**: from the grip's record to this one. -/
inductive Moves (config : Config) (polite : Prop) (runId : String) (g : Grip) :
    Option Record → Prop
  | keep : Moves config polite runId g g.record
  | admission {request : RunRequest} (absent : g.record = none) (id : request.runId = runId)
      (wf : (Record.admitted config request).Wf runId) :
      Moves config polite runId g (some (Record.admitted config request))
  | append {record : Record} {state : State} {message : OutboxMessage}
      (held : g.record = some record) (next : message.sequence? = some (record.lastSequence + 1))
      (identity : message.identity = record.request.identity) (state_ne : state ≠ .preparing)
      (open_ : isCancellationTerminalState record.state = true → g.unfenced = true ∧ ¬ polite)
      (waits : record.state = .inputRequired → state = .canceled ∨ ¬ polite) :
      Moves config polite runId g (some (record.appended state (record.lastSequence + 1) message))
  | supplement {record : Record} {value : SupplementalMessage} (held : g.record = some record)
      (offer : Inbox.matchesOffer record value = true) :
      Moves config polite runId g (some (record.supplemented value))
  | admitted {record : Record} (held : g.record = some record)
      (preparing : record.state = .preparing) :
      Moves config polite runId g (some (record.inState .accepted))
  | prepare {record : Record} (held : g.record = some record) (accepted : record.state = .accepted)
      (unstarted : g.unstarted = true) :
      Moves config polite runId g (some (record.inState .preparing))

section Owner

variable {config : Config} {polite : Prop} {runId : String} {g g' : Grip} {op : Op}
  {i i' : Inbox} {response : op.Resp}

/-- **The inversion of an owned operation.** -/
theorem owns_moves (ho : Owns polite runId g op) (hi : i.records.get runId = g.record)
    (hp : Performs config op i response i') :
    Moves config polite runId g (i'.records.get runId) := by
  have hkeep : i'.records = i.records → Moves config polite runId g (i'.records.get runId) := by
    intro h
    rw [h, hi]
    exact .keep
  cases op with
  | inbox o =>
    cases hp.effect with
    | nothing => exact hkeep rfl
    | admission absent run trace =>
      obtain ⟨rfl, hgoverned⟩ := ho
      rw [Inbox.get_store_self]
      exact .admission (by rw [← hi, absent]) rfl (Record.Wf.admitted config run trace hgoverned)
    | append held =>
      obtain ⟨rfl, hseq, hstate, record, hrecord, hid, hopen⟩ := ho
      obtain rfl := Option.some.inj (hrecord.symm.trans (hi.symm.trans held))
      rw [Inbox.get_store_self]
      exact .append hrecord hseq hid hstate (hopen rfl).1 (hopen rfl).2
    | supplement held offer =>
      obtain rfl := ho
      rw [Inbox.get_store_self]
      exact .supplement (by rw [← hi, held]) offer
    | transition held =>
      obtain ⟨rfl, hmove⟩ := ho
      rw [Inbox.get_store_self]
      have hheld := hi.symm.trans held
      rcases hmove with ⟨hfrom, hto⟩ | ⟨hfrom, hto, hunstarted⟩
      · rw [hto]
        exact .admitted hheld hfrom
      · rw [hto]
        exact .prepare hheld hfrom hunstarted
    | quarantine | update => exact ho.elim
    | cancel | clear => exact hkeep rfl
  | send _ | prepare _ | resolveArtifacts _ | explicitCancel _ | acquire _ | startRuntime _
  | runtimeEvent _ _ _ | runtimeReturn _ =>
    exact hkeep (congrArg Inbox.records (hp.outside_inbox fun _ h => by cases h))

/-- The records and tombstones of other Runs stay as they are. -/
theorem owns_frame (ho : Owns polite runId g op) (hp : Performs config op i response i')
    {other : String} (hne : other ≠ runId) :
    i'.records.get other = i.records.get other ∧
      i'.tombstones.get other = i.tombstones.get other := by
  cases op with
  | inbox o =>
    cases hp.effect with
    | nothing => exact ⟨rfl, rfl⟩
    | admission | append | transition =>
      obtain ⟨rfl, -⟩ := ho
      exact ⟨Inbox.get_store_ne _ _ hne, rfl⟩
    | supplement =>
      obtain rfl := ho
      exact ⟨Inbox.get_store_ne _ _ hne, rfl⟩
    | quarantine | update => exact ho.elim
    | cancel =>
      obtain rfl := ho
      exact ⟨rfl, Table.get_put_ne _ _ hne⟩
    | clear =>
      obtain ⟨rfl, -⟩ := ho
      exact ⟨rfl, Table.get_remove_ne _ hne⟩
  | send _ | prepare _ | resolveArtifacts _ | explicitCancel _ | acquire _ | startRuntime _
  | runtimeEvent _ _ _ | runtimeReturn _ =>
    rw [hp.outside_inbox fun _ h => by cases h]
    exact ⟨rfl, rfl⟩

/-- Only clearing drops the tombstone, and only of a Run that is not live. -/
theorem owns_tombstone (ho : Owns polite runId g op) (hp : Performs config op i response i')
    (hi : (i.tombstones.get runId).isSome) (hlive : g.live = true) :
    (i'.tombstones.get runId).isSome := by
  cases op with
  | inbox o =>
    cases hp.effect with
    | nothing | admission | append | transition | supplement => exact hi
    | quarantine | update => exact ho.elim
    | cancel =>
      obtain rfl := ho
      rw [Table.get_put_self]
      rfl
    | clear => rw [ho.2] at hlive; cases hlive
  | send _ | prepare _ | resolveArtifacts _ | explicitCancel _ | acquire _ | startRuntime _
  | runtimeEvent _ _ _ | runtimeReturn _ =>
    rw [hp.outside_inbox fun _ h => by cases h]
    exact hi

/-- Only an appended event moves the last sequence, and by one. -/
theorem owns_sequence (ho : Owns polite runId g op) (hi : i.records.get runId = g.record)
    (hp : Performs config op i response i') {record : Record} (held : g.record = some record) :
    ∃ record', i'.records.get runId = some record' ∧ record'.request = record.request ∧
      (record'.lastSequence = record.lastSequence ∨
        record'.lastSequence = record.lastSequence + 1 ∧
          ∃ id state n message, op = .inbox (.appendEvent id state n message)) := by
  have hget : i.records.get runId = some record := hi.trans held
  cases op with
  | inbox o =>
    cases hp.effect with
    | nothing | cancel | clear => exact ⟨record, hget, rfl, .inl rfl⟩
    | admission absent run trace =>
      obtain ⟨rfl, -⟩ := ho
      rw [hget] at absent
      cases absent
    | append held' =>
      obtain ⟨rfl, -⟩ := ho
      obtain rfl := Option.mem_unique hget held'
      exact ⟨_, Inbox.get_store_self .., rfl, .inr ⟨rfl, _, _, _, _, rfl⟩⟩
    | supplement held' =>
      obtain rfl := ho
      obtain rfl := Option.mem_unique hget held'
      exact ⟨_, Inbox.get_store_self .., rfl, .inl rfl⟩
    | transition held' =>
      obtain ⟨rfl, -⟩ := ho
      obtain rfl := Option.mem_unique hget held'
      exact ⟨_, Inbox.get_store_self .., rfl, .inl rfl⟩
    | quarantine | update => exact ho.elim
  | send _ | prepare _ | resolveArtifacts _ | explicitCancel _ | acquire _ | startRuntime _
  | runtimeEvent _ _ _ | runtimeReturn _ =>
    rw [hp.outside_inbox fun _ h => by cases h]
    exact ⟨record, hget, rfl, .inl rfl⟩

end Owner

/-! ## What the moves preserve -/

/-- **The record goes on as it ended**: the same state and the same events, but for supplemental
evidence. -/
def Record.Final (record record' : Record) : Prop :=
  record'.request = record.request ∧ record'.state = record.state ∧
    record'.lastSequence = record.lastSequence ∧
    ∃ evidence : List SupplementalMessage,
      record'.events = record.events ++ evidence.map .supplemental

theorem Record.Final.refl (record : Record) : record.Final record :=
  ⟨rfl, rfl, rfl, [], by simp⟩

theorem Record.Final.trans {a b c : Record} (hab : a.Final b) (hbc : b.Final c) : a.Final c := by
  obtain ⟨hrequest, hstate, hlast, evidence, hevents⟩ := hab
  obtain ⟨hrequest', hstate', hlast', evidence', hevents'⟩ := hbc
  refine ⟨hrequest'.trans hrequest, hstate'.trans hstate, hlast'.trans hlast,
    evidence ++ evidence', ?_⟩
  rw [hevents', hevents, List.map_append, List.append_assoc]

theorem Record.Final.supplemented (record : Record) (value : SupplementalMessage) :
    record.Final (record.supplemented value) :=
  ⟨rfl, rfl, rfl, [value], rfl⟩

section Moves

variable {config : Config} {polite : Prop} {runId : String} {g : Grip} {o : Option Record}

theorem Moves.wf (h : Moves config polite runId g o) (hw : g.Wf runId) :
    ∀ record, o = some record → record.Wf runId := by
  intro record hrecord
  cases h with
  | keep => exact hw record hrecord
  | admission absent id wf => cases hrecord; exact wf
  | append held next identity state_ne open_ waits =>
    cases hrecord
    exact (hw _ held).appended next identity
  | supplement held offer => cases hrecord; exact (hw _ held).supplemented offer
  | admitted held preparing => cases hrecord; exact (hw _ held).inState _
  | prepare held accepted unstarted => cases hrecord; exact (hw _ held).inState _

variable {record : Record}

theorem Moves.present (h : Moves config polite runId g o) (held : g.record = some record) :
    ∃ record', o = some record' := by
  cases h with
  | keep => exact ⟨record, held⟩
  | admission absent => rw [absent] at held; cases held
  | append | supplement | admitted | prepare => exact ⟨_, rfl⟩

theorem Moves.admitted_stays (h : Moves config polite runId g o) (hu : g.unstarted = false)
    (held : g.record = some record) (hs : record.state ≠ .preparing) :
    ∃ record', o = some record' ∧ record'.state ≠ .preparing := by
  cases h with
  | keep => exact ⟨record, held, hs⟩
  | admission absent => rw [absent] at held; cases held
  | append held' next identity state_ne open_ waits => exact ⟨_, rfl, state_ne⟩
  | supplement held' offer =>
    obtain rfl := Option.mem_unique held held'
    exact ⟨_, rfl, hs⟩
  | admitted held' preparing => exact ⟨_, rfl, by simp [Record.inState]⟩
  | prepare held' accepted unstarted => rw [hu] at unstarted; cases unstarted

/-- **A record that has ended stays as it ended**, if the grip is not one on an unfenced Run or the
adapter is polite. -/
theorem Moves.final (h : Moves config polite runId g o) (held : g.record = some record)
    (hended : isCancellationTerminalState record.state = true)
    (hclosed : g.unfenced = false ∨ polite) :
    ∃ record', o = some record' ∧ record.Final record' := by
  cases h with
  | keep => exact ⟨record, held, .refl record⟩
  | admission absent => rw [absent] at held; cases held
  | append held' next identity state_ne open_ waits =>
    obtain rfl := Option.mem_unique held held'
    obtain ⟨hunfenced, himpolite⟩ := open_ hended
    rcases hclosed with hfenced | hpolite
    · rw [hfenced] at hunfenced
      cases hunfenced
    · exact absurd hpolite himpolite
  | @supplement record value held' offer =>
    obtain rfl := Option.mem_unique held held'
    exact ⟨_, rfl, .supplemented _ value⟩
  | admitted held' preparing =>
    obtain rfl := Option.mem_unique held held'
    rw [preparing] at hended
    cases hended
  | prepare held' accepted unstarted =>
    obtain rfl := Option.mem_unique held held'
    rw [accepted] at hended
    cases hended

/-- **A record that waits for input** stays as it is, or is canceled, if the adapter is polite. -/
theorem Moves.waiting (h : Moves config polite runId g o) (held : g.record = some record)
    (hwaits : record.state = .inputRequired) (hpolite : polite) :
    ∃ record', o = some record' ∧ (record.Final record' ∨
      ∃ message, record' = record.appended .canceled (record.lastSequence + 1) message) := by
  cases h with
  | keep => exact ⟨record, held, .inl (.refl record)⟩
  | admission absent => rw [absent] at held; cases held
  | append held' next identity state_ne open_ waits =>
    obtain rfl := Option.mem_unique held held'
    rcases waits hwaits with hcanceled | himpolite
    · rw [hcanceled]
      exact ⟨_, rfl, .inr ⟨_, rfl⟩⟩
    · exact absurd hpolite himpolite
  | @supplement record value held' offer =>
    obtain rfl := Option.mem_unique held held'
    exact ⟨_, rfl, .inl (.supplemented _ value)⟩
  | admitted held' preparing =>
    obtain rfl := Option.mem_unique held held'
    rw [preparing] at hwaits
    cases hwaits
  | prepare held' accepted unstarted =>
    obtain rfl := Option.mem_unique held held'
    rw [accepted] at hwaits
    cases hwaits

end Moves

/-! ## Rules for owned programs -/

/-- **The program keeps to its grip**, and `P` holds where it returns. -/
def Owned (config : Config) (polite : Prop) (runId : String) {α : Type} (g : Grip) (x : Prog α)
    (P : Grip → α → Prop) : Prop :=
  Proc.Keeps (ownership config polite runId) (Proc.Ends P) g x

section Rules

variable {config : Config} {polite : Prop} {runId : String} {g : Grip} {α β : Type}
  {P : Grip → α → Prop}

theorem owned_ret {a : α} (h : P g a) : Owned config polite runId g (pure a) P := Proc.ends_ret h

theorem owned_fail {e : Failure} : Owned config polite runId g (.fail e) P := Proc.ends_fail

theorem owned_error {message : String} : Owned config polite runId g (fail message) P :=
  Proc.ends_fail

theorem owned_bind {x : Prog β} {f : β → Prog α} {S : Grip → β → Prop}
    (hx : Owned config polite runId g x S)
    (hf : ∀ g' b, S g' b → Owned config polite runId g' (f b) P) :
    Owned config polite runId g (x >>= f) P :=
  Proc.ends_bind hx hf

theorem owned_mono {x : Prog α} {R : Grip → α → Prop} (h : Owned config polite runId g x R)
    (hRP : ∀ g a, R g a → P g a) : Owned config polite runId g x P :=
  Proc.ends_mono h hRP

theorem owned_ofExcept_ok {a : β} {f : β → Prog α} (h : Owned config polite runId g (f a) P) :
    Owned config polite runId g (Proc.ofExcept (.ok a) >>= f) P := h

theorem owned_last {x : Prog α} (h : Owned config polite runId g (x >>= pure) P) :
    Owned config polite runId g x P := by
  have : x >>= pure = x := Proc.bind_ret x
  rwa [this] at h

theorem owned_inbox {op : InboxOp} {f : op.Result → Prog α} (ho : Owns polite runId g (.inbox op))
    (h : ∀ a before after, before.records.get runId = g.record →
      op.run config before = (.ok a, after) →
      (g.after runId (.inbox op) (.ok a) (after.records.get runId)).Wf runId →
      Owned config polite runId (g.after runId (.inbox op) (.ok a) (after.records.get runId))
        (f a) P) :
    Owned config polite runId g (inbox op >>= f) P := by
  refine Proc.keeps_call ho fun response g' hn => ?_
  obtain ⟨⟨before, after, hbefore, hp, rfl, -⟩, hw⟩ := hn
  cases response with
  | error e => exact Proc.ends_fail
  | ok a => exact h a before after hbefore hp.inbox_ok hw

theorem Grip.after_inbox (g : Grip) {op : InboxOp} {response : Except Failure op.Result}
    (hpass : Op.passes runId (.inbox op) response = false) (o : Option Record) :
    g.after runId (.inbox op) response o = { g with record := o } := by
  simp [Grip.after, hpass, Op.starts, Op.sends]

variable {id : String} {f : Record → Prog α}

theorem owned_get (hid : id = runId) (h : ∀ record, g.record = some record → record.Wf runId →
      Owned config polite runId g (f record) P) :
    Owned config polite runId g (inbox (.get id) >>= f) P := by
  subst hid
  refine owned_inbox trivial fun a before after hbefore hrun hw => ?_
  rcases hget : before.records.get id with _ | record
  · rw [InboxOp.run, Inbox.load_none hget] at hrun
    cases hrun
  · have hheld : g.record = some record := by rw [← hbefore, hget]
    rw [InboxOp.run, Inbox.load_some hget] at hrun
    cases hrun
    rw [Grip.after_inbox g rfl, hbefore] at hw ⊢
    exact h _ hheld (hw _ hheld)

variable {request : RunRequest}

theorem owned_hasCancellation {f : Bool → Prog α} (hid : request.runId = runId)
    (hyes : Owned config polite runId g (f true) P)
    (hno : Owned config polite runId { g with unfenced := g.unfenced || g.live } (f false) P) :
    Owned config polite runId g (inbox (.hasCancellation request) >>= f) P := by
  refine owned_inbox trivial fun a before after hbefore hrun hw => ?_
  rcases Inbox.hasCancellation_cases request before with ⟨e, h⟩ | ⟨-, h⟩ | ⟨-, h⟩
  · rw [InboxOp.run, h] at hrun
    cases hrun
  · rw [InboxOp.run, h] at hrun
    cases hrun
    have hafter : g.after runId (.inbox (.hasCancellation request)) (.ok false)
        (before.records.get runId) = { g with unfenced := g.unfenced || g.live } := by
      simp [Grip.after, Op.passes, Op.starts, Op.sends, hid, hbefore]
    rw [hafter]
    exact hno
  · rw [InboxOp.run, h] at hrun
    cases hrun
    rw [Grip.after_inbox g rfl, hbefore]
    exact hyes

theorem owned_clear {f : Unit → Prog α} (hid : id = runId) (hlive : g.live = false)
    (h : Owned config polite runId g (f ()) P) :
    Owned config polite runId g (inbox (.clearCancellation id) >>= f) P := by
  refine owned_inbox ⟨hid, hlive⟩ fun a before after hbefore hrun hw => ?_
  rcases Inbox.clearCancellation_cases id before with ⟨e, hc⟩ | hc
  · rw [InboxOp.run, hc] at hrun
    cases hrun
  · rw [InboxOp.run, hc] at hrun
    cases hrun
    rw [Grip.after_inbox g rfl]
    dsimp only
    rw [hbefore]
    exact h

theorem owned_recordCancellation {requested : RunCancelRequest} {f : CancellationTombstone → Prog α}
    (hid : requested.runId = runId)
    (h : Owned config polite runId g (f (Inbox.tombstoneOf requested)) P) :
    Owned config polite runId g (inbox (.recordCancellation requested) >>= f) P := by
  refine owned_inbox hid fun a before after hbefore hrun hw => ?_
  rcases Inbox.recordCancellation_cases requested before with ⟨e, hc⟩ | ⟨-, hc⟩ | hc
  · rw [InboxOp.run, hc] at hrun
    cases hrun
  · rw [InboxOp.run, hc] at hrun
    cases hrun
    rw [Grip.after_inbox g rfl, hbefore]
    exact h
  · rw [InboxOp.run, hc] at hrun
    cases hrun
    rw [Grip.after_inbox g rfl]
    dsimp only
    rw [hbefore]
    exact h

/-- A transition, either way. -/
theorem owned_transition {expected next : State} (hid : id = runId)
    (hmove : expected = .preparing ∧ next = .accepted ∨
      expected = .accepted ∧ next = .preparing ∧ g.unstarted = true)
    (h : ∀ record, g.record = some record → record.state = expected →
      (record.inState next).Wf runId →
      Owned config polite runId { g with record := some (record.inState next) }
        (f (record.inState next)) P) :
    Owned config polite runId g (inbox (.transitionLocalState id expected next) >>= f) P := by
  subst hid
  refine owned_inbox ⟨rfl, hmove⟩ fun a before after hbefore hrun hw => ?_
  rcases Inbox.transitionLocalState_cases id expected next before with ⟨e, hc⟩ |
    ⟨record, hget, hstate, hc⟩
  · rw [InboxOp.run, hc] at hrun
    cases hrun
  · rw [InboxOp.run, hc] at hrun
    cases hrun
    rw [Grip.after_inbox g rfl, Inbox.get_store_self] at hw ⊢
    exact h record (by rw [← hbefore, hget]) hstate (hw _ rfl)

/-- The next event of a record that has not ended. -/
theorem owned_append {state : State} {record : Record} {message : OutboxMessage} (hid : id = runId)
    (hheld : g.record = some record) (hlive : isCancellationTerminalState record.state = false)
    (hwaits : record.state = .inputRequired → state = .canceled) (hstate : state ≠ .preparing)
    (hseq : message.sequence? = some (record.lastSequence + 1))
    (hmessage : message.identity = record.request.identity)
    (h : (record.appended state (record.lastSequence + 1) message).Wf runId →
      Owned config polite runId
        { g with record := some (record.appended state (record.lastSequence + 1) message) }
        (f (record.appended state (record.lastSequence + 1) message)) P) :
    Owned config polite runId g
      (inbox (.appendEvent id state (record.lastSequence + 1) message) >>= f) P := by
  subst hid
  refine owned_inbox ⟨rfl, hseq, hstate, record, hheld, hmessage, fun _ => ⟨fun hended => ?_,
    fun h => .inl (hwaits h)⟩⟩ fun a before after hbefore hrun hw => ?_
  · rw [hlive] at hended
    cases hended
  · have hget : before.records.get id = some record := by rw [hbefore, hheld]
    rcases Inbox.appendEvent_cases id state (record.lastSequence + 1) message before with ⟨e, hc⟩ |
      ⟨record', hget', hle, hc⟩ | ⟨record', hget', hnext, hc⟩
    · rw [InboxOp.run, hc] at hrun
      cases hrun
    · obtain rfl := Option.mem_unique hget hget'
      omega
    · obtain rfl := Option.mem_unique hget hget'
      rw [InboxOp.run, hc] at hrun
      cases hrun
      rw [Grip.after_inbox g rfl, Inbox.get_store_self] at hw ⊢
      exact h (hw _ rfl)

/-- Supplemental evidence leaves the rest of the record as it was. -/
theorem owned_supplement {record : Record} {value : SupplementalMessage} (hid : id = runId)
    (hheld : g.record = some record) (h : ∀ record', record.Final record' → record'.Wf runId →
      Owned config polite runId { g with record := some record' } (f record') P) :
    Owned config polite runId g (inbox (.appendSupplementalEvidence id value) >>= f) P := by
  subst hid
  refine owned_inbox rfl fun a before after hbefore hrun hw => ?_
  have hget : before.records.get id = some record := by rw [hbefore, hheld]
  rcases Inbox.appendSupplementalEvidence_cases id value before with
    ⟨e, hc⟩ | ⟨record', hget', hc⟩ |
    ⟨record', hget', -, hc⟩
  · rw [InboxOp.run, hc] at hrun
    cases hrun
  · obtain rfl := Option.mem_unique hget hget'
    rw [InboxOp.run, hc] at hrun
    cases hrun
    rw [Grip.after_inbox g rfl, hget] at hw ⊢
    exact h record (.refl record) (hw _ rfl)
  · obtain rfl := Option.mem_unique hget hget'
    rw [InboxOp.run, hc] at hrun
    cases hrun
    rw [Grip.after_inbox g rfl, Inbox.get_store_self] at hw ⊢
    exact h _ (.supplemented record value) (hw _ rfl)

theorem owned_accept {f : Record × Bool → Prog α} (hid : request.runId = runId)
    (hgoverned : request.governed = false)
    (hduplicate : ∀ record, g.record = some record → record.Wf runId →
      Owned config polite runId g (f (record, true)) P)
    (hnew : g.record = none → (Record.admitted config request).Wf runId →
      Owned config polite runId { g with record := some (Record.admitted config request) }
        (f (Record.admitted config request, false)) P) :
    Owned config polite runId g (inbox (.accept request) >>= f) P := by
  subst hid
  refine owned_inbox ⟨rfl, hgoverned⟩ fun a before after hbefore hrun hw => ?_
  rcases Inbox.accept_cases config request before with ⟨e, hc⟩ | ⟨record, hget, hc⟩ |
    ⟨habsent, -, -, hc⟩
  · rw [InboxOp.run, hc] at hrun
    cases hrun
  · rw [InboxOp.run, hc] at hrun
    cases hrun
    rw [Grip.after_inbox g rfl, hbefore] at hw ⊢
    have hheld : g.record = some record := by rw [← hbefore, hget]
    exact hduplicate record hheld (hw record hheld)
  · rw [InboxOp.run, hc] at hrun
    cases hrun
    rw [Grip.after_inbox g rfl, Inbox.get_store_self] at hw ⊢
    exact hnew (by rw [← hbefore, habsent]) (hw _ rfl)

/-- An operation that leaves the inbox alone and starts nothing. -/
theorem owned_outside {op : Op} {k : op.Resp → Prog α} (ho : Owns polite runId g op)
    (hop : ∀ o, op ≠ .inbox o) (hstarts : op.starts = [])
    (h : ∀ response,
      Owned config polite runId { g with sent := g.sent ++ op.sends response } (k response) P) :
    Owned config polite runId g (.call op k) P := by
  refine Proc.keeps_call ho fun response g' hn => ?_
  obtain ⟨⟨before, after, hbefore, hp, rfl, -⟩, -⟩ := hn
  have hpass : op.passes runId response = false := by
    cases op with
    | inbox o => exact absurd rfl (hop o)
    | _ => rfl
  have hafter : g.after runId op response (after.records.get runId) =
      { g with sent := g.sent ++ op.sends response } := by
    rw [hp.outside_inbox hop, hbefore]
    simp [Grip.after, hpass, hstarts]
  rw [hafter]
  exact h response

theorem owned_send {value : Outgoing} {f : Unit → Prog α}
    (h : Owned config polite runId { g with sent := g.sent ++ [value] } (f ()) P) :
    Owned config polite runId g (send value >>= f) P := by
  refine owned_outside trivial (fun _ hop => by cases hop) rfl fun response => ?_
  cases response with
  | error e => exact Proc.ends_fail
  | ok a => exact h

theorem owned_ask {op : Op} {k : op.Resp → Prog α} (ho : Owns polite runId g op)
    (hop : ∀ o, op ≠ .inbox o) (hstarts : op.starts = [])
    (hsends : ∀ response, op.sends response = [])
    (h : ∀ response, Owned config polite runId g (k response) P) :
    Owned config polite runId g (.call op k) P := by
  refine owned_outside ho hop hstarts fun response => ?_
  rw [hsends, List.append_nil]
  exact h response

theorem owned_explicitCancel {f : Bool → Prog α}
    (h : ∀ explicit, Owned config polite runId g (f explicit) P) :
    Owned config polite runId g (explicitCancel id >>= f) P :=
  owned_ask trivial (fun _ hop => by cases hop) rfl (fun _ => rfl) h

theorem owned_acquire {agentId : String} {f : Bool → Prog α}
    (h : ∀ granted, Owned config polite runId g (f granted) P) :
    Owned config polite runId g (acquire agentId >>= f) P :=
  owned_ask trivial (fun _ hop => by cases hop) rfl (fun _ => rfl) h

theorem owned_prepare {f : Except PrepareFailure (List Json) → Prog α}
    (h : ∀ prepared, Owned config polite runId g (f prepared) P) :
    Owned config polite runId g (prepare request >>= f) P :=
  owned_ask trivial (fun _ hop => by cases hop) rfl (fun _ => rfl) h

end Rules

end AgentRoom.Bridge
