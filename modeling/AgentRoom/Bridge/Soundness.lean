import AgentRoom.Bridge.Owners

/-!
# A sound desk

What holds of the data directory and of its histories between any two operations:
every record is well formed, no adapter was started twice, none was started for a
Run that has no record or is still being prepared, and none for a fenced Run. A
fenced Run keeps its tombstone until its record has ended.

An owner's operation keeps the desk sound, and keeps every other owner's grip.
-/

namespace AgentRoom.Bridge

structure Desk.Sound (d : Desk) : Prop where
  wf : ∀ runId record, d.inbox.records.get runId = some record → record.Wf runId
  /-- No adapter was started twice. -/
  once : d.started.Nodup
  /-- Nothing was started for a Run that is not admitted yet. -/
  fresh : ∀ runId, (∀ record, d.inbox.records.get runId = some record →
    record.state = .preparing) → runId ∉ d.started
  /-- Nothing was started for a fenced Run. -/
  unrun : ∀ runId ∈ d.fenced, runId ∉ d.started
  /-- The fence stands until the record has ended. -/
  stands : ∀ runId ∈ d.fenced, ∃ record, d.inbox.records.get runId = some record ∧
    (isCancellationTerminalState record.state = true ∨ (d.inbox.tombstones.get runId).isSome)

/-- What a grip knows is so. -/
structure Grip.Fits (g : Grip) (runId : String) (d : Desk) : Prop where
  record : g.record = d.inbox.records.get runId
  unstarted : g.unstarted = true → runId ∉ d.started
  unfenced : g.unfenced = true → g.record.isSome ∧ runId ∉ d.fenced

section Step

variable {config : Config} {polite : Prop} {runId : String} {g : Grip} {op : Op}
  {d : Desk} {i' : Inbox} {response : op.Resp}

/-! ## Histories -/

variable {id : String}

theorem starts_owned (ho : Owns polite runId g op) (h : id ∈ op.starts) :
    id = runId ∧ g.unstarted = true ∧ g.unfenced = true ∧ (∀ o, op ≠ .inbox o) ∧
      op.starts = [runId] ∧ ∃ record, g.record = some record ∧ record.state ≠ .preparing := by
  cases op with
  | startRuntime started =>
    obtain ⟨rfl, hunstarted, hunfenced, hrecord⟩ := ho
    exact ⟨List.mem_singleton.mp h, hunstarted, hunfenced, (fun _ hop => by cases hop), rfl,
      hrecord⟩
  | inbox _ | send _ | prepare _ | resolveArtifacts _ | explicitCancel _ | acquire _
  | runtimeEvent _ _ _ | runtimeReturn _ => cases h

/-- A fence is put up where the record is admitted under its tombstone. -/
theorem fences_owned (ho : Owns polite runId g op) {i : Inbox} (hi : i.records.get runId = g.record)
    (hp : Performs config op i response i') (h : id ∈ op.fences i i') :
    id = runId ∧ g.record = none ∧ (i'.records.get runId).isSome ∧
      (i'.tombstones.get runId).isSome := by
  cases op with
  | inbox o =>
    cases o with
    | accept request =>
      obtain ⟨rfl, -⟩ := ho
      unfold Op.fences at h
      dsimp only at h
      split at h
      · rename_i hfence
        obtain ⟨hbefore, hafter, htombstone⟩ := hfence
        have hnone : g.record = none := by
          rw [← hi]
          exact Option.isNone_iff_eq_none.mp hbefore
        refine ⟨List.mem_singleton.mp h, hnone, hafter, ?_⟩
        cases hp.effect with
        | nothing => exact htombstone
        | admission => exact htombstone
      · cases h
    | appendEvent _ _ _ _ | appendSupplementalEvidence _ _ | list
    | quarantineIncompatibleTrace _ | update _ _ _ | transitionLocalState _ _ _ | get _
    | recordCancellation _ | hasCancellation _ | clearCancellation _ => cases h
  | send _ | prepare _ | resolveArtifacts _ | explicitCancel _ | acquire _ | startRuntime _
  | runtimeEvent _ _ _ | runtimeReturn _ => cases h

/-- An answer that there is no tombstone is true. -/
theorem passes_owned {i : Inbox} (hp : Performs config op i response i')
    (h : op.passes runId response = true) : i.tombstones.get runId = none ∧ i' = i := by
  cases op with
  | inbox o =>
    cases o with
    | hasCancellation request =>
      cases response with
      | error e => cases h
      | ok canceled =>
        cases canceled with
        | true => cases h
        | false =>
          have hid : request.runId = runId := by simpa [Op.passes] using h
          have hrun : Inbox.hasCancellation request i = (.ok false, i') := hp.inbox_ok
          rcases Inbox.hasCancellation_cases request i with ⟨e, hc⟩ | ⟨hnone, hc⟩ | ⟨-, hc⟩
          · rw [hc] at hrun
            cases hrun
          · rw [hc] at hrun
            cases hrun
            rw [← hid]
            exact ⟨hnone, rfl⟩
          · rw [hc] at hrun
            cases hrun
    | accept _ | appendEvent _ _ _ _ | appendSupplementalEvidence _ _ | list
    | quarantineIncompatibleTrace _ | update _ _ _ | transitionLocalState _ _ _ | get _
    | recordCancellation _ | clearCancellation _ => cases h
  | send _ | prepare _ | resolveArtifacts _ | explicitCancel _ | acquire _ | startRuntime _
  | runtimeEvent _ _ _ | runtimeReturn _ => cases h

/-! ## One operation of an owner -/

theorem started_performed (h : id ∈ (d.performed op response i').started) :
    id ∈ d.started ∨ id ∈ op.starts := List.mem_append.mp h

theorem fenced_performed (h : id ∈ (d.performed op response i').fenced) :
    id ∈ d.fenced ∨ id ∈ op.fences d.inbox i' := List.mem_append.mp h

theorem other_owned (ho : Owns polite runId g op) (hi : d.inbox.records.get runId = g.record)
    (hp : Performs config op d.inbox response i') {other : String} (hne : other ≠ runId) :
    (other ∈ (d.performed op response i').started → other ∈ d.started) ∧
      (other ∈ (d.performed op response i').fenced → other ∈ d.fenced) := by
  constructor
  · intro h
    rcases started_performed h with h | h
    · exact h
    · exact absurd (starts_owned ho h).1 hne
  · intro h
    rcases fenced_performed h with h | h
    · exact h
    · exact absurd (fences_owned ho hi hp h).1 hne

/-- **The grip still fits** after the owner's operation. -/
theorem fits_step (hs : d.Sound) (hf : g.Fits runId d) (ho : Owns polite runId g op)
    (hp : Performs config op d.inbox response i') :
    (g.after runId op response (i'.records.get runId)).Fits runId (d.performed op response i') := by
  have hi : d.inbox.records.get runId = g.record := hf.record.symm
  have hmoves := owns_moves ho hi hp
  refine ⟨rfl, fun hu => ?_, fun hu => ?_⟩
  · have hu' : g.unstarted = true ∧ runId ∉ op.starts := by simpa [Grip.after] using hu
    intro h
    rcases started_performed h with h | h
    · exact hf.unstarted hu'.1 h
    · exact hu'.2 h
  · have hbefore : (∃ record, g.record = some record) ∧ runId ∉ d.fenced := by
      have hu' : g.unfenced = true ∨ op.passes runId response = true ∧ g.live = true := by
        simpa [Grip.after] using hu
      rcases hu' with hu' | ⟨hpass, hlive⟩
      · obtain ⟨hsome, hnot⟩ := hf.unfenced hu'
        exact ⟨Option.isSome_iff_exists.mp hsome, hnot⟩
      · -- the tombstone is gone and the record has not ended: the Run is not fenced
        obtain ⟨hnone, -⟩ := passes_owned hp hpass
        obtain ⟨record, hrecord, hlive'⟩ : ∃ record, g.record = some record ∧
            isCancellationTerminalState record.state = false := by
          simpa [Grip.live, Option.any_eq_true] using hlive
        refine ⟨⟨record, hrecord⟩, fun hfenced => ?_⟩
        obtain ⟨record', hget, hended | htombstone⟩ := hs.stands runId hfenced
        · obtain rfl := Option.some.inj (hrecord.symm.trans (hi.symm.trans hget))
          rw [hlive'] at hended
          cases hended
        · rw [hnone] at htombstone
          cases htombstone
    obtain ⟨⟨record, hrecord⟩, hnot⟩ := hbefore
    obtain ⟨record', hrecord'⟩ := hmoves.present hrecord
    refine ⟨by rw [Grip.after, hrecord']; rfl, fun h => ?_⟩
    rcases fenced_performed h with h | h
    · exact hnot h
    · have hnone := (fences_owned ho hi hp h).2.1
      rw [hrecord] at hnone
      cases hnone

/-- **Another owner's grip still fits.** -/
theorem fits_frame {other : String} {g' : Grip} (hf : g'.Fits other d)
    (ho : Owns polite runId g op) (hi : d.inbox.records.get runId = g.record)
    (hp : Performs config op d.inbox response i') (hne : other ≠ runId) :
    g'.Fits other (d.performed op response i') := by
  obtain ⟨hstarted, hfenced⟩ := other_owned ho hi hp hne
  refine ⟨?_, fun hu h => hf.unstarted hu (hstarted h), fun hu => ?_⟩
  · exact hf.record.trans (owns_frame ho hp hne).1.symm
  · obtain ⟨hsome, hnot⟩ := hf.unfenced hu
    exact ⟨hsome, fun h => hnot (hfenced h)⟩

/-- The owned record's own part of `fresh`. -/
theorem fresh_step (hs : d.Sound) (hf : g.Fits runId d) (ho : Owns polite runId g op)
    (hp : Performs config op d.inbox response i')
    (hpreparing : ∀ record, i'.records.get runId = some record → record.state = .preparing) :
    runId ∉ (d.performed op response i').started := by
  have hi : d.inbox.records.get runId = g.record := hf.record.symm
  have hold : (∀ record, g.record = some record → record.state = .preparing) →
      runId ∉ d.started := by
    intro h
    refine hs.fresh runId fun record hget => h record (hi.symm.trans hget)
  intro h
  rcases started_performed h with h | h
  · -- no move but `prepare` leads back to a preparation, and that one is of an unstarted Run
    have hmoves := owns_moves ho hi hp
    generalize i'.records.get runId = after at hmoves hpreparing
    cases hmoves with
    | keep => exact hold hpreparing h
    | admission => cases hpreparing _ rfl
    | append held next identity state_ne open_ waits => exact state_ne (hpreparing _ rfl)
    | supplement held offer =>
      refine hold (fun record hrecord => ?_) h
      obtain rfl := Option.mem_unique hrecord held
      exact hpreparing (record.supplemented _) rfl
    | admitted => cases hpreparing _ rfl
    | prepare held accepted unstarted => exact hf.unstarted unstarted h
  · obtain ⟨-, -, -, hop, -, record, hrecord, hstate⟩ := starts_owned ho h
    have hsame : i' = d.inbox := hp.outside_inbox hop
    refine hstate (hpreparing record ?_)
    rw [hsame, hi, hrecord]

/-- The owned record's own part of `stands`. -/
theorem stands_step (hs : d.Sound) (hf : g.Fits runId d) (ho : Owns polite runId g op)
    (hp : Performs config op d.inbox response i')
    (h : runId ∈ (d.performed op response i').fenced) :
    ∃ record, i'.records.get runId = some record ∧
      (isCancellationTerminalState record.state = true ∨
        (i'.tombstones.get runId).isSome) := by
  have hi : d.inbox.records.get runId = g.record := hf.record.symm
  rcases fenced_performed h with h | h
  · have hunfenced : g.unfenced = false := by
      by_contra hu
      exact (hf.unfenced (by simpa using hu)).2 h
    obtain ⟨record, hget, hstands⟩ := hs.stands runId h
    have hrecord : g.record = some record := hi.symm.trans hget
    by_cases hended : isCancellationTerminalState record.state = true
    · obtain ⟨record', hafter, -, hstate, -⟩ :=
        (owns_moves ho hi hp).final hrecord hended (.inl hunfenced)
      exact ⟨record', hafter, .inl (by rw [hstate, hended])⟩
    · have htombstone : (d.inbox.tombstones.get runId).isSome := hstands.resolve_left hended
      have hlive : g.live = true := by simp [Grip.live, hrecord, hended]
      obtain ⟨record', hafter⟩ := (owns_moves ho hi hp).present hrecord
      exact ⟨record', hafter, .inr (owns_tombstone ho hp htombstone hlive)⟩
  · obtain ⟨-, -, hsome, htombstone⟩ := fences_owned ho hi hp h
    obtain ⟨record, hrecord⟩ := Option.isSome_iff_exists.mp hsome
    exact ⟨record, hrecord, .inr htombstone⟩

/-- **An owner's operation keeps the desk sound.** -/
theorem sound_step (hs : d.Sound) (hf : g.Fits runId d) (ho : Owns polite runId g op)
    (hp : Performs config op d.inbox response i') : (d.performed op response i').Sound := by
  have hi : d.inbox.records.get runId = g.record := hf.record.symm
  refine ⟨?_, ?_, ?_, ?_, ?_⟩
  · intro id record hget
    by_cases hid : id = runId
    · subst hid
      refine (owns_moves ho hi hp).wf (fun r hr => ?_) record hget
      exact hs.wf id r (hi.trans hr)
    · refine hs.wf id record ?_
      rw [← (owns_frame ho hp hid).1]
      exact hget
  · refine List.nodup_append'.mpr ⟨hs.once, ?_, ?_⟩
    · cases op <;> simp [Op.starts]
    · intro id hid hstarts
      -- a program starts its own Run, and has not before
      obtain ⟨rfl, hunstarted, -⟩ := starts_owned ho hstarts
      exact hf.unstarted hunstarted hid
  · intro id hpreparing
    by_cases hid : id = runId
    · subst hid
      exact fresh_step hs hf ho hp hpreparing
    · intro h
      refine hs.fresh id (fun record hget => ?_) ((other_owned ho hi hp hid).1 h)
      refine hpreparing record ?_
      exact ((owns_frame ho hp hid).1).trans hget
  · intro id hfenced hstarted
    by_cases hid : id = runId
    · subst hid
      -- fenced and started: before, or by this step
      rcases started_performed hstarted with hstarted | hstarted
      · rcases fenced_performed hfenced with hfenced | hfenced
        · exact hs.unrun id hfenced hstarted
        · obtain ⟨-, hnone, -⟩ := fences_owned ho hi hp hfenced
          refine hs.fresh id (fun record hget => ?_) hstarted
          rw [hi, hnone] at hget
          cases hget
      · obtain ⟨-, -, hunfenced, hop, -⟩ := starts_owned ho hstarted
        have hnot := (hf.unfenced hunfenced).2
        rcases fenced_performed hfenced with hfenced | hfenced
        · exact hnot hfenced
        · obtain ⟨-, hnone, -⟩ := fences_owned ho hi hp hfenced
          have := (hf.unfenced hunfenced).1
          rw [hnone] at this
          cases this
    · obtain ⟨hstarted', hfenced'⟩ := other_owned ho hi hp hid
      exact hs.unrun id (hfenced' hfenced) (hstarted' hstarted)
  · intro id hfenced
    by_cases hid : id = runId
    · subst hid
      exact stands_step hs hf ho hp hfenced
    · obtain ⟨record, hget, hstands⟩ := hs.stands id ((other_owned ho hi hp hid).2 hfenced)
      obtain ⟨hrecords, htombstones⟩ := owns_frame ho hp hid
      refine ⟨record, hrecords.trans hget, ?_⟩
      change _ ∨ (i'.tombstones.get id).isSome
      rw [htombstones]
      exact hstands

end Step

end AgentRoom.Bridge
