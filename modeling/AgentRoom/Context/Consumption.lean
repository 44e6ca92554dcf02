import AgentRoom.Context.Coverage

/-!
# The receipt of a selection

`validateRoomContextConsumption`, on the bundle as its delivery stored it. The
receipt of a selection meets all of it but one condition: the cursor reported
next to the receipt must be the receipt's coverage.
-/

namespace AgentRoom.Context

open DeliveryService (checkRoomContextConsumption)

/-- The bundle as the delivery row keeps it. -/
def ContextBundle.delivered (bundle : ContextBundle) : RoomContextBundle where
  targetThroughSequence := bundle.targetThroughSequence
  checkpoint := bundle.checkpoint.map fun checkpoint =>
    { checkpointId := checkpoint.checkpointId, throughSequence := checkpoint.throughSequence }
  rawTail :=
    { fromSequenceExclusive := bundle.rawTail.fromSequenceExclusive
      throughSequenceInclusive := bundle.rawTail.throughSequenceInclusive
      messages := bundle.rawTail.messages }

theorem isSafeInteger_le {m n : Nat} (h : isSafeInteger n = true) (hle : m ≤ n) :
    isSafeInteger m = true := by
  simp only [isSafeInteger, decide_eq_true_eq] at h ⊢
  omega

section Receipt

variable {log : RoomLog} {rows : List RollingRoomCheckpoint} {run : RunRequested}
  {bundle : ContextBundle} {checkpoint : RollingRoomCheckpoint} {messages : List MessageRecord}
  {base : Nat} {disposition : SessionDisposition}

/-- **What the receipt of a selection says**, and that the server expects it. -/
structure ReceiptOf (run : RunRequested) (bundle : RoomContextBundle)
    (disposition : SessionDisposition) (base : Nat) (receipt : RoomContextConsumption) : Prop where
  base_eq : receipt.baseContextCursor = base
  coverage : receipt.coverageThroughSequence = max base run.session.contextCursor
  target : bundle.targetThroughSequence = run.session.contextCursor
  through : receipt.rawThroughSequenceInclusive = bundle.rawTail.throughSequenceInclusive
  interval : receipt.rawThroughSequenceInclusive =
    receipt.rawFromSequenceExclusive + receipt.rawMessageCount
  below : receipt.rawThroughSequenceInclusive < run.session.contextCursor
  few : receipt.rawMessageCount ≤ 12
  fresh : disposition ≠ .resumed → base = 0
  checkpointId : receipt.checkpointId =
    (bundle.checkpoint.filter fun checkpoint =>
      disposition ≠ .resumed ∨ base < checkpoint.throughSequence).map (·.checkpointId)
  rawFrom : receipt.rawFromSequenceExclusive =
    if (bundle.checkpoint.filter fun checkpoint =>
        disposition ≠ .resumed ∨ base < checkpoint.throughSequence).isSome then
      bundle.rawTail.fromSequenceExclusive
    else min (max base bundle.rawTail.fromSequenceExclusive)
      bundle.rawTail.throughSequenceInclusive

/-- **The receipt of a selection is the one the server expects.** -/
theorem selectionReceipt_of (h : BundleSound log rows run bundle checkpoint messages)
    (hfresh : disposition ≠ .resumed → base = 0) :
    ReceiptOf run bundle.delivered disposition base
      (selectionReceipt (selectRoomContext bundle base disposition) base) := by
  have hends := h.ends
  have hfew := h.few
  have htarget : bundle.targetThroughSequence = run.session.contextCursor := by
    rw [h.made]
    rfl
  by_cases hinclude : disposition ≠ .resumed ∨ base < checkpoint.throughSequence
  · rw [selectRoomContext_whole h hinclude]
    -- the checkpoint goes in: all of the bundle is consumed
    have hconsumed : ((bundle.delivered.checkpoint).filter fun checkpoint =>
        decide (disposition ≠ .resumed ∨ base < checkpoint.throughSequence)) =
          some ⟨checkpoint.checkpointId, checkpoint.throughSequence⟩ := by
      rw [h.made]
      exact Option.filter_some_pos (decide_eq_true hinclude)
    refine ⟨rfl, by simp [selectionReceipt, htarget], htarget, rfl, ?_, ?_, ?_, hfresh, ?_, ?_⟩
    · simp only [selectionReceipt, h.made, makeBundle]
      omega
    · simp only [selectionReceipt, h.made, makeBundle]
      omega
    · simp only [selectionReceipt, h.made, makeBundle]
      exact hfew
    · rw [hconsumed]
      simp [selectionReceipt, h.made, makeBundle, bundleCheckpoint]
    · rw [hconsumed]
      simp [selectionReceipt, ContextBundle.delivered]
  · push Not at hinclude
    obtain ⟨hresumed, hpast⟩ := hinclude
    have hcount := congrArg List.length (selected_sequences h hpast)
    rw [List.length_map, List.length_range'] at hcount
    -- a resumed session is past it: only newer messages go in
    have hconsumed : ((bundle.delivered.checkpoint).filter fun checkpoint =>
        decide (disposition ≠ .resumed ∨ base < checkpoint.throughSequence)) = none := by
      rw [h.made]
      refine Option.filter_some_neg (decide_eq_false ?_)
      intro hstale
      rcases hstale with hnot | hlt
      · exact hnot hresumed
      · simp only [bundleCheckpoint] at hlt
        omega
    rw [selectRoomContext_past h hresumed hpast]
    have hthrough : bundle.delivered.rawTail.throughSequenceInclusive =
        run.session.contextCursor - 1 := by
      rw [h.made]
      rfl
    have hfrom : bundle.delivered.rawTail.fromSequenceExclusive = checkpoint.throughSequence := by
      rw [h.made]
      rfl
    refine ⟨rfl, by simp [selectionReceipt, htarget], htarget, ?_, ?_, ?_, ?_, hfresh, ?_, ?_⟩
    · exact hthrough.symm
    · simp only [selectionReceipt, hcount]
      omega
    · simp only [selectionReceipt]
      omega
    · simp only [selectionReceipt, hcount]
      omega
    · rw [hconsumed]
      rfl
    · rw [hconsumed, hthrough, hfrom, Nat.max_eq_left hpast]
      rfl

/-- **The server accepts a selection's receipt exactly when the cursor reported with it is its
coverage**, which is a number JavaScript can hold. -/
theorem checkRoomContextConsumption_iff {stored : RoomContextBundle}
    {receipt : RoomContextConsumption} (h : ReceiptOf run stored disposition base receipt)
    {latest contextCursor : Nat} (hlatest : max base run.session.contextCursor ≤ latest) :
    checkRoomContextConsumption stored latest disposition contextCursor receipt = .ok () ↔
      contextCursor = max base run.session.contextCursor ∧
        isSafeInteger (max base run.session.contextCursor) = true := by
  have hcoverage := h.coverage
  have hbase := h.base_eq
  have htarget := h.target
  have hbelow := h.below
  have hinterval := h.interval
  constructor
  · intro hok
    unfold checkRoomContextConsumption at hok
    split_ifs at hok with hguard hrange
    · push Not at hrange
      refine ⟨by rw [hrange.2.2.2.1, hcoverage], ?_⟩
      simp only [List.any_cons, List.any_nil, Bool.or_eq_true, not_or, Bool.not_eq_true',
        Bool.not_eq_false] at hguard
      rw [← hcoverage]
      exact hguard.2.2.2.2.2.1
  · rintro ⟨hcursor, hsafe⟩
    have hall : ∀ n ≤ max base run.session.contextCursor, isSafeInteger n = true :=
      fun n hn => isSafeInteger_le hsafe hn
    have hsafe' : ¬([contextCursor, receipt.baseContextCursor, receipt.rawFromSequenceExclusive,
        receipt.rawThroughSequenceInclusive, receipt.rawMessageCount,
        receipt.coverageThroughSequence].any (!isSafeInteger ·)) = true := by
      simp only [List.any_cons, List.any_nil, Bool.or_eq_true, not_or, Bool.not_eq_true',
        Bool.not_eq_false, Bool.false_eq_true, not_false_eq_true, and_true]
      refine ⟨hall _ (by omega), hall _ (by omega), hall _ (by omega), hall _ (by omega),
        hall _ (by omega), hall _ (by omega)⟩
    have hrange : ¬(12 < receipt.rawMessageCount ∨
        receipt.rawThroughSequenceInclusive ≠ stored.rawTail.throughSequenceInclusive ∨
        receipt.rawThroughSequenceInclusive ≠
          receipt.rawFromSequenceExclusive + receipt.rawMessageCount ∨
        contextCursor ≠ receipt.coverageThroughSequence ∨
        receipt.coverageThroughSequence ≠
          max receipt.baseContextCursor stored.targetThroughSequence ∨
        receipt.coverageThroughSequence < stored.targetThroughSequence ∨
        latest < receipt.coverageThroughSequence) := by
      have hfew := h.few
      have hthrough := h.through
      push Not
      refine ⟨hfew, hthrough, hinterval, by omega, by omega, by omega, by omega⟩
    have hfresh : ¬((disposition = .started ∨ disposition = .recreated) ∧
        receipt.baseContextCursor ≠ 0) := by
      rintro ⟨hnew, hzero⟩
      refine hzero (hbase.trans (h.fresh ?_))
      rcases hnew with hnew | hnew <;> rw [hnew] <;> decide
    unfold checkRoomContextConsumption
    rw [if_neg hsafe', if_neg hrange, if_neg hfresh]
    simp only [hbase]
    rw [if_neg (by rw [h.checkpointId]; simp), if_neg (by rw [← h.rawFrom]; simp)]
    rfl

end Receipt

end AgentRoom.Context
