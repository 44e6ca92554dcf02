import AgentRoom.Context.RuntimeSession
import AgentRoom.Run.Delivery

/-!
# The three interval computations agree

A frozen bundle is a checkpoint and the messages after it, up to the request.
What `prepareRoomContextForSession` selects of it covers the Room together with
the session's base cursor, and gives no message twice; the receipt of the
selection is the one `validateRoomContextConsumption` expects.

A bundle is refused for one reason only: a summary that is blank to Go.
-/

namespace AgentRoom.Context

/-! ## Frozen bundles -/

/-- **A frozen bundle**: its parts, and what holds of them. -/
structure BundleSound (log : RoomLog) (rows : List RollingRoomCheckpoint) (run : RunRequested)
    (bundle : ContextBundle) (checkpoint : RollingRoomCheckpoint)
    (messages : List MessageRecord) : Prop where
  made : bundle = makeBundle run.session.contextCursor run.triggerMessageId checkpoint messages
  row : checkpoint ∈ rows
  ends : checkpoint.throughSequence + messages.length + 1 = run.session.contextCursor
  few : messages.length ≤ 12
  consecutive : Consecutive checkpoint.throughSequence messages
  notRequest : ∀ m ∈ messages, m.messageId ≠ run.triggerMessageId
  bytes : contentBytes (messages.map contextMessage) ≤ 10240
  posted : ∀ m ∈ messages, m ∈ log.messages
  distinct : (messages.map (·.messageId)).Nodup
  noOther : run.contextMessages = []
  reached : run.session.contextCursor ≤ log.latestMessageSequence

/-- The bundle of a payload, if it has one, is sound. -/
def FrozenSound (log : RoomLog) (rows : List RollingRoomCheckpoint) (run : RunRequested) : Prop :=
  ∀ bundle, run.roomContextBundle = some bundle →
    ∃ checkpoint messages, BundleSound log rows run bundle checkpoint messages

variable {log : RoomLog} {bundle : ContextBundle} {checkpoint : RollingRoomCheckpoint}
  {rows : List RollingRoomCheckpoint} {run : RunRequested} {messages : List MessageRecord}

theorem BundleSound.mono {log' : RoomLog} {rows' : List RollingRoomCheckpoint}
    (hlog : log.messages ⊆ log'.messages)
    (hlatest : log.latestMessageSequence ≤ log'.latestMessageSequence) (hrows : rows ⊆ rows')
    (h : BundleSound log rows run bundle checkpoint messages) :
    BundleSound log' rows' run bundle checkpoint messages :=
  { h with
    row := hrows h.row
    posted := fun m hm => hlog (h.posted m hm)
    reached := h.reached.trans hlatest }

theorem BundleSound.delta (h : BundleSound log rows run bundle checkpoint messages)
    (binding : RuntimeSessionBinding) :
    BundleSound log rows (contextDeltaForSession run binding) bundle checkpoint messages :=
  { h with
    noOther := by
      show contextAfterCursor run.contextMessages binding.lastRoomSequence = []
      rw [h.noOther]
      rfl }

variable {memory : RollingMemory} {created : Option Time}

/-- `latestAtOrBefore` returns a row of the table. -/
theorem mem_of_latestAtOrBefore {through : Nat}
    (h : memory.latestAtOrBefore through created = some checkpoint) :
    checkpoint ∈ memory.checkpoints := by
  have hfold {step : Option RollingRoomCheckpoint → RollingRoomCheckpoint →
        Option RollingRoomCheckpoint}
      (hstep : ∀ best c, step best c = best ∨ step best c = some c) :
      ∀ (rows : List RollingRoomCheckpoint) (best : Option RollingRoomCheckpoint),
        rows.foldl step best = some checkpoint → best = some checkpoint ∨ checkpoint ∈ rows := by
    intro rows
    induction rows with
    | nil => intro best hbest; exact .inl hbest
    | cons c rows ih =>
      intro best hbest
      rcases ih _ hbest with hhead | htail
      · rcases hstep best c with hsame | hnew
        · exact .inl (hsame.symm.trans hhead)
        · rw [hnew] at hhead
          exact .inr (Option.some.inj hhead ▸ List.mem_cons_self)
      · exact .inr (List.mem_cons_of_mem _ htail)
  have hlatest := hfold (fun best c => ?_) _ _ h
  · rcases hlatest with hnone | hmem
    · cases hnone
    · exact List.mem_of_mem_filter hmem
  cases best with
  | none => exact .inr rfl
  | some b =>
    dsimp only
    split
    · exact .inr rfl
    · exact .inl rfl

/-- **What a planned bundle is made of.** -/
theorem planRoomContextBundle_some {target : Nat} {request : MessageId} {excluded : List MessageId}
    (h : planRoomContextBundle log memory target request created excluded = some bundle) :
    ∃ checkpoint messages, bundle = makeBundle target request checkpoint messages ∧
      checkpoint ∈ memory.checkpoints ∧
      checkpoint.throughSequence + messages.length + 1 = target ∧ messages.length ≤ 12 ∧
      Consecutive checkpoint.throughSequence messages ∧
      (∀ m ∈ messages, m.messageId ≠ request) ∧
      contentBytes (messages.map contextMessage) ≤ 10240 ∧
      (∀ m ∈ messages, m ∈ log.messages) ∧ (messages.map (·.messageId)).Nodup := by
  unfold planRoomContextBundle at h
  split_ifs at h with hexcluded hmode hprior
  split at h
  · cases h
  · rename_i checkpoint hlatest
    dsimp only at h
    split_ifs at h with hgap hbytes
    cases h
    push Not at hgap
    obtain ⟨hcount, hfew, hconsecutive, hrequest⟩ := hgap
    refine ⟨checkpoint, _, rfl, mem_of_latestAtOrBefore hlatest, by omega, hfew, hconsecutive,
      ?_, by simpa [rawRoomTailUtf8ByteLimit] using hbytes, fun m hm =>
        RoomLog.mem_of_listMessagesRange hm, RoomLog.listMessagesRange_distinct _ _ _ _⟩
    intro m hm hid
    exact hrequest (List.any_eq_true.mpr ⟨m, hm, decide_eq_true hid⟩)

/-- **Every bundle `ensure` freezes is sound.** -/
theorem deliveryPayload_sound (log : RoomLog) (memory : RollingMemory)
    (request : DeliveryRequest) (plan : PayloadPlan) (contextMessages : List ContextMessage)
    (hreached : request.trigger.sequence ≤ log.latestMessageSequence) :
    FrozenSound log memory.checkpoints
      (deliveryPayload log memory request plan contextMessages) := by
  intro bundle hbundle
  simp only [deliveryPayload] at hbundle
  split at hbundle
  · rename_i hcapable
    obtain ⟨checkpoint, messages, hmade, hrow, hends, hfew, hconsecutive, hrequest, hbytes,
      hposted, hdistinct⟩ := planRoomContextBundle_some hbundle
    refine ⟨checkpoint, messages, ⟨hmade, hrow, hends, hfew, hconsecutive, hrequest, hbytes,
      hposted, hdistinct, ?_, hreached⟩⟩
    simp [deliveryPayload, hcapable, hbundle]
  · cases hbundle

/-! ## A sound bundle is refused for its summary only -/

section Validate

variable {log : RoomLog} {rows : List RollingRoomCheckpoint} {run : RunRequested}
  {bundle : ContextBundle} {checkpoint : RollingRoomCheckpoint} {messages : List MessageRecord}

theorem validateBundleCheckpoint_iff
    (h : BundleSound log rows run bundle checkpoint messages)
    (hsound : CheckpointSound checkpoint) :
    validateBundleCheckpoint bundle = .ok () ↔ isGoBlank checkpoint.summary = false := by
  have hends := h.ends
  have hinterval := hsound.interval
  have hproper := hsound.proper
  have hbounded : checkpointBounded bundle (bundleCheckpoint checkpoint) = true := by
    have hnamed := List.isEmpty_eq_false_iff.mpr hsound.named
    have hdigest : lowerHexDigest checkpoint.sourceDigest = true := hsound.digest
    simp only [checkpointBounded, h.made, makeBundle, bundleCheckpoint, Bool.and_eq_true,
      decide_eq_true_eq, hnamed, hdigest, Bool.not_false, and_true]
    exact ⟨⟨⟨⟨⟨decide_eq_true (by omega), decide_eq_true (by omega)⟩, by omega⟩,
      decide_eq_true (by omega)⟩, decide_eq_true hsound.summary⟩, decide_eq_true hsound.bounded⟩
  have hcheckpoint : bundle.checkpoint = some (bundleCheckpoint checkpoint) := by rw [h.made]; rfl
  have hdistinct : (bundleCheckpoint checkpoint).provenanceMessageIds.Nodup := hsound.distinct
  have hsummary : (bundleCheckpoint checkpoint).summary = checkpoint.summary := rfl
  simp only [validateBundleCheckpoint, hcheckpoint, hbounded, Bool.not_true, Bool.false_or,
    hsummary, hdistinct, not_true, if_false]
  cases isGoBlank checkpoint.summary <;> simp [pure, Except.pure, throw, throwThe,
    MonadExceptOf.throw]

theorem validateBundleTail_ok (h : BundleSound log rows run bundle checkpoint messages) :
    validateBundleTail run bundle = .ok () := by
  have hends := h.ends
  have hsequences : (messages.map contextMessage).map (·.sequence) =
      List.range' (checkpoint.throughSequence + 1) messages.length := by
    rw [List.map_map]
    exact h.consecutive
  have hids : (messages.map contextMessage).map (·.messageId) = messages.map (·.messageId) := by
    rw [List.map_map]
    rfl
  have hcontinues : tailContinues bundle = true := by
    simp only [tailContinues, h.made, makeBundle, bundleCheckpoint, Option.map_some,
      Option.getD_some, decide_true, Bool.true_and, decide_eq_true_eq]
    omega
  have hexact : tailExact run bundle.rawTail = true := by
    simp only [tailExact, h.made, makeBundle, hsequences, List.length_map, decide_true,
      Bool.true_and, List.all_eq_true, decide_eq_true_eq]
    intro m hm
    obtain ⟨r, hr, rfl⟩ := List.mem_map.mp hm
    exact h.notRequest r hr
  have hdistinct : (bundle.rawTail.messages.map (·.messageId)).Nodup := by
    rw [h.made]
    exact hids ▸ h.distinct
  have hbytes : contentBytes bundle.rawTail.messages = bundle.rawTail.utf8Bytes := by
    rw [h.made]
    rfl
  simp [validateBundleTail, hcontinues, hexact, hdistinct, hbytes, pure, Except.pure]

/-- **A sound bundle is accepted exactly when its summary is not blank to Go.** -/
theorem validateRoomContext_iff
    (h : BundleSound log rows run bundle checkpoint messages)
    (hsound : CheckpointSound checkpoint) :
    validateRoomContext run bundle = .ok () ↔ isGoBlank checkpoint.summary = false := by
  have hends := h.ends
  have hmatches : requestMatches run bundle = true := by
    simp only [requestMatches, h.made, makeBundle, h.noOther, decide_true, Bool.and_true,
      List.isEmpty_nil, decide_eq_true_eq]
    omega
  have htail : tailBounded bundle = true := by
    simp only [tailBounded, h.made, makeBundle, List.length_map, decide_true, Bool.true_and,
      Bool.and_eq_true, decide_eq_true_eq]
    exact ⟨h.few, h.bytes⟩
  rw [← validateBundleCheckpoint_iff h hsound]
  simp only [validateRoomContext, hmatches, htail, Bool.not_true, Bool.false_eq_true, if_false]
  cases hcheckpoint : validateBundleCheckpoint bundle with
  | error e => simp [bind, Except.bind]
  | ok u => simp [bind, Except.bind, validateBundleTail_ok h]

end Validate

/-! ## What a selection covers -/

/-- **What a session is given of a bundle, from its base cursor on.** -/
structure Covers (log : RoomLog) (rows : List RollingRoomCheckpoint) (target base : Nat)
    (selected : ContextBundle) : Prop where
  /-- No sequence before the request is left out. -/
  complete : ∀ s, 1 ≤ s → s < target → s ≤ base ∨
    (∃ c ∈ rows, selected.checkpoint = some (bundleCheckpoint c) ∧ Summarises rows c s) ∨
    s ∈ selected.rawTail.messages.map (·.sequence)
  /-- No message is given twice: the tail is strictly increasing, -/
  increasing : (selected.rawTail.messages.map (·.sequence)).Pairwise (· < ·)
  /-- above the base cursor, -/
  aboveBase : ∀ m ∈ selected.rawTail.messages, base < m.sequence
  /-- and above what the checkpoint of the selection summarises. -/
  aboveCheckpoint : ∀ c, selected.checkpoint = some c →
    ∀ m ∈ selected.rawTail.messages, c.throughSequence < m.sequence
  /-- The tail is of the Room. -/
  posted : ∀ m ∈ selected.rawTail.messages, ∃ r ∈ log.messages, contextMessage r = m

/-- The numbers above `low` of a range that reaches it. -/
theorem range'_filter_lt (start n low : Nat) (hlow : start ≤ low + 1)
    (hhigh : low + 1 ≤ start + n) :
    (List.range' start n).filter (low < ·) = List.range' (low + 1) (start + n - (low + 1)) := by
  have hsplit : List.range' start n =
      List.range' start (low + 1 - start) ++ List.range' (low + 1) (start + n - (low + 1)) := by
    have happend : List.range' start (low + 1 - start) 1 ++
        List.range' (start + 1 * (low + 1 - start)) (start + n - (low + 1)) 1 =
          List.range' start (low + 1 - start + (start + n - (low + 1))) 1 := List.range'_append
    rw [show start + 1 * (low + 1 - start) = low + 1 by omega,
      show low + 1 - start + (start + n - (low + 1)) = n by omega] at happend
    rw [← happend]
  rw [hsplit, List.filter_append, List.filter_eq_nil_iff.mpr, List.filter_eq_self.mpr,
    List.nil_append]
  · intro a ha
    rw [List.mem_range'_1] at ha
    simp only [decide_eq_true_eq]
    omega
  · intro a ha
    rw [List.mem_range'_1] at ha
    simp only [decide_eq_true_eq]
    omega

section Select

variable {log : RoomLog} {rows : List RollingRoomCheckpoint} {run : RunRequested}
  {bundle : ContextBundle} {checkpoint : RollingRoomCheckpoint} {messages : List MessageRecord}
  {base : Nat} {disposition : SessionDisposition}

theorem BundleSound.sequences (h : BundleSound log rows run bundle checkpoint messages) :
    bundle.rawTail.messages.map (·.sequence) =
      List.range' (checkpoint.throughSequence + 1) messages.length := by
  rw [h.made]
  simp only [makeBundle, List.map_map]
  exact h.consecutive

theorem includesCheckpoint_iff (h : BundleSound log rows run bundle checkpoint messages) :
    includesCheckpoint bundle base disposition = true ↔
      disposition ≠ .resumed ∨ base < checkpoint.throughSequence := by
  simp [includesCheckpoint, h.made, makeBundle, bundleCheckpoint]

theorem selected_sequences (h : BundleSound log rows run bundle checkpoint messages)
    (hpast : checkpoint.throughSequence ≤ base) :
    let low := min base (run.session.contextCursor - 1)
    (bundle.rawTail.messages.filter (low < ·.sequence)).map (·.sequence) =
      List.range' (low + 1) (run.session.contextCursor - (low + 1)) := by
  intro low
  have hends := h.ends
  have hcomm : (bundle.rawTail.messages.filter (low < ·.sequence)).map (·.sequence) =
      (bundle.rawTail.messages.map (·.sequence)).filter (low < ·) := by
    rw [List.filter_map]
    rfl
  rw [hcomm, h.sequences, range'_filter_lt _ _ _ (by omega) (by omega)]
  congr 1
  omega

/-- The selection without the checkpoint. -/
theorem selectRoomContext_past (h : BundleSound log rows run bundle checkpoint messages)
    (hresumed : disposition = .resumed) (hpast : checkpoint.throughSequence ≤ base) :
    let low := min base (run.session.contextCursor - 1)
    let selected := bundle.rawTail.messages.filter (low < ·.sequence)
    selectRoomContext bundle base disposition =
      { bundle with
        checkpoint := none
        rawTail :=
          { fromSequenceExclusive := low
            throughSequenceInclusive := run.session.contextCursor - 1
            messageCount := selected.length
            utf8Bytes := contentBytes selected
            messages := selected } } := by
  have hexclude : includesCheckpoint bundle base disposition = false := by
    rw [Bool.eq_false_iff, Ne, includesCheckpoint_iff h]
    intro hinclude
    rcases hinclude with hnot | hlt
    · exact hnot hresumed
    · omega
  have hthrough : bundle.rawTail.throughSequenceInclusive = run.session.contextCursor - 1 := by
    rw [h.made]
    rfl
  have hcheckpoint : (bundle.checkpoint.map (·.throughSequence)).getD 0 =
      checkpoint.throughSequence := by
    rw [h.made]
    rfl
  unfold selectRoomContext
  rw [if_neg (by rw [hexclude]; simp)]
  simp only [hcheckpoint, hthrough, Nat.max_eq_left hpast]

theorem selectRoomContext_whole (h : BundleSound log rows run bundle checkpoint messages)
    (hinclude : disposition ≠ .resumed ∨ base < checkpoint.throughSequence) :
    selectRoomContext bundle base disposition = bundle := by
  unfold selectRoomContext
  rw [if_pos ((includesCheckpoint_iff h).mpr hinclude)]

/-- **A selection covers the Room up to the request and gives no message twice.** -/
theorem selectRoomContext_covers (h : BundleSound log rows run bundle checkpoint messages)
    (hrows : RowsInv rows) (hbase : disposition ≠ .resumed → base = 0) :
    Covers log rows run.session.contextCursor base
      (selectRoomContext bundle base disposition) := by
  have hends := h.ends
  by_cases hinclude : disposition ≠ .resumed ∨ base < checkpoint.throughSequence
  · -- the checkpoint goes in, and the messages after it
    have hbelow : base ≤ checkpoint.throughSequence := by
      rcases hinclude with hfresh | hlt
      · rw [hbase hfresh]
        exact Nat.zero_le _
      · exact Nat.le_of_lt hlt
    have hcheckpoint : bundle.checkpoint = some (bundleCheckpoint checkpoint) := by
      rw [h.made]
      rfl
    -- the raw tail begins after the checkpoint
    have habove : ∀ m ∈ bundle.rawTail.messages, checkpoint.throughSequence < m.sequence := by
      intro m hm
      have hseq := List.mem_map_of_mem (f := fun m => m.sequence) hm
      rw [h.sequences, List.mem_range'_1] at hseq
      omega
    rw [selectRoomContext_whole h hinclude]
    refine ⟨?_, ?_, fun m hm => Nat.lt_of_le_of_lt hbelow (habove m hm), ?_, ?_⟩
    · intro s hlow hhigh
      by_cases hsummary : s ≤ checkpoint.throughSequence
      · exact .inr (.inl ⟨checkpoint, h.row, hcheckpoint, hrows.covers _ h.row s hlow hsummary⟩)
      · refine .inr (.inr ?_)
        rw [h.sequences, List.mem_range'_1]
        omega
    · rw [h.sequences]
      exact List.pairwise_lt_range'
    · intro c hc m hm
      rw [hcheckpoint] at hc
      cases hc
      exact habove m hm
    · intro m hm
      rw [h.made] at hm
      obtain ⟨r, hr, hrm⟩ := List.mem_map.mp hm
      exact ⟨r, h.posted r hr, hrm⟩
  · push Not at hinclude
    obtain ⟨hresumed, hpast⟩ := hinclude
    have hsequences := selected_sequences h hpast
    rw [selectRoomContext_past h hresumed hpast]
    refine ⟨?_, ?_, ?_, by simp, ?_⟩
    · intro s hlow hhigh
      by_cases hs : s ≤ base
      · exact .inl hs
      · refine .inr (.inr ?_)
        rw [hsequences, List.mem_range'_1]
        omega
    · rw [hsequences]
      exact List.pairwise_lt_range'
    · intro m hm
      have hseq := List.mem_map_of_mem (f := fun m => m.sequence) hm
      rw [hsequences, List.mem_range'_1] at hseq
      omega
    · intro m hm
      have hm' := List.mem_of_mem_filter hm
      rw [h.made] at hm'
      obtain ⟨r, hr, hrm⟩ := List.mem_map.mp hm'
      exact ⟨r, h.posted r hr, hrm⟩

end Select

end AgentRoom.Context
