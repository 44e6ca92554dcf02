import AgentRoom.Bridge.Soundness

/-!
# What a recovery leaves behind

A recovery has the inbox to itself. It owns one record after another, never as that
of an unstarted Run. When it returns, every record it found accepted or working has
been reported: as canceled if its tombstone was there, else as of unknown outcome.
-/

namespace AgentRoom.Bridge

open RuntimeExecutor

/-- **The discipline of a recovery**: it lists the inbox, or acts as the owner of some record. -/
def recovering (config : Config) (polite : Prop) : Proc.Discipline bridgeInterface Desk where
  allowed d op := op = .inbox .list ∨
    ∃ runId g, g.Fits runId d ∧ g.unstarted = false ∧ Owns polite runId g op
  next d op response d' := (∃ i', Performs config op d.inbox response i' ∧
    d' = d.performed op response i') ∧ (polite → Polite config d.inbox op response)

/-- The record once its outcome is reported as unknown. -/
def Record.unknown (record : Record) : Record :=
  record.appended .outcomeUnknown (record.lastSequence + 1) (restartedMessage record)

def unknownEvent (record : Record) : Outgoing := .event (restartedMessage record)

/-- The record says that the Runtime may have begun, and not how it ended. -/
def Record.open_ (record : Record) : Prop := record.state = .accepted ∨ record.state = .working

def Reported (found : Inbox) (d : Desk) (runId : String) (record : Record) : Prop :=
  (found.tombstones.get runId = none ∧ d.inbox.records.get runId = some record.unknown ∧
      unknownEvent record ∈ d.sent) ∨
    ((found.tombstones.get runId).isSome ∧ d.inbox.records.get runId = some record.canceled ∧
      canceledEvent record ∈ d.sent)

/-- **Every open record that was found was reported.** -/
def Recovered (found : Inbox) (d : Desk) : Prop :=
  ∀ runId record, found.records.get runId = some record → record.open_ →
    Reported found d runId record

section Recovery

variable {config : Config} {polite : Prop} {runId : String} {g : Grip} {record : Record}

/-! ## One record -/

theorem unknownEvent_mem_replay (config : Config) (record : Record) :
    unknownEvent record ∈ replayEvents config record.unknown := by
  unfold replayEvents
  refine List.mem_map.mpr ⟨restartedMessage record, ?_, ?_⟩
  · simp [Record.unknown, Record.appended]
  · unfold unknownEvent restartedMessage statusMessage
    split <;> rfl

/-- The report of a record that was not canceled. -/
def ReportsUnknown (record : Record) (g : Grip) : Prop :=
  record.open_ → g.record = some record.unknown ∧ unknownEvent record ∈ g.sent

theorem owned_reportRecovered {prepared : Except PrepareFailure (List Json)}
    (h : g.Holds runId record) :
    Owned config polite runId g (reportRecovered config record prepared)
      fun g' _ => ReportsUnknown record g' := by
  refine owned_send ?_
  by_cases hopen : record.state = .accepted ∨ record.state = .working
  · rw [if_pos hopen]
    have hlive : isCancellationTerminalState record.state = false := by
      rcases hopen with hstate | hstate <;> rw [hstate] <;> rfl
    have hwaits : record.state ≠ .inputRequired := by
      rcases hopen with hstate | hstate <;> rw [hstate] <;> simp
    refine owned_append h.wf.id h.held hlive (fun heq => absurd heq hwaits) (by simp) rfl rfl
      fun hw => ?_
    refine owned_bind (owned_replay hw.id handsOver_toSocket ⟨rfl, hw⟩) fun g' values hg' => ?_
    obtain ⟨hvalues, hg'⟩ := hg'
    refine owned_ret fun _ => ?_
    rw [hg']
    refine ⟨rfl, List.mem_append_right _ ?_⟩
    rw [hvalues]
    exact unknownEvent_mem_replay config record
  · rw [if_neg hopen]
    have h' : ∀ values, ({ g with sent := values } : Grip).Holds runId record :=
      fun _ => ⟨h.held, h.wf⟩
    refine owned_bind (owned_replay h.wf.id handsOver_toSocket (h' _)) fun _ _ _ => ?_
    exact owned_ret fun ho => absurd ho hopen

theorem owned_recoverPrepared (h : g.Holds runId record) :
    Owned config polite runId g (recoverPrepared config record)
      fun g' _ => ReportsUnknown record g' := by
  unfold recoverPrepared
  by_cases hfailed : hasPersistedMaterializationFailure record = true
  · rw [if_pos hfailed]
    exact owned_reportRecovered h
  · rw [if_neg hfailed]
    refine owned_prepare fun prepared => ?_
    cases prepared with
    | error failure =>
      dsimp only
      by_cases hretryable : failure.retryable = true
      · rw [if_pos hretryable]
        exact owned_fail
      · rw [if_neg hretryable]
        exact owned_reportRecovered h
    | ok materializations => exact owned_reportRecovered h

theorem owned_recoverSupplemental (h : g.Holds runId record) :
    Owned config polite runId g (recoverSupplemental record) fun g' record' =>
      g'.Holds runId record' ∧ (record.open_ → record' = record) := by
  unfold recoverSupplemental
  rcases record.request.supplementalOffer with _ | offer
  · exact owned_ret ⟨h, fun _ => rfl⟩
  · dsimp only
    by_cases howed : record.state = .completed ∧ 0 < latestPersistedReplySequence record
    · rw [if_pos howed]
      refine owned_last (owned_supplement h.wf.id h.held fun record' _ hw => ?_)
      refine owned_ret ⟨⟨rfl, hw⟩, fun hopen => ?_⟩
      rcases hopen with hstate | hstate <;> rw [howed.1] at hstate <;> cases hstate
    · rw [if_neg howed]
      exact owned_ret ⟨h, fun _ => rfl⟩

/-- What `recoverRecord` does with a record whose tombstone is, or is not, there. -/
theorem owned_recoverCanceled (h : g.Holds runId record) (canceled : Bool) :
    Owned config polite runId g
      (if canceled = true then cancelTombstonedRecord config record
       else if record.state = .preparing then pure ()
       else recoverSupplemental record >>= fun record => recoverPrepared config record)
      fun g' _ => record.open_ →
        g'.record = some (if canceled then record.canceled else record.unknown) ∧
          (if canceled then canceledEvent record else unknownEvent record) ∈ g'.sent := by
  cases canceled with
  | true => exact owned_reportCanceled h
  | false =>
    rw [if_neg (by simp)]
    by_cases hpreparing : record.state = .preparing
    · rw [if_pos hpreparing]
      refine owned_ret fun hopen => ?_
      rcases hopen with hstate | hstate <;> rw [hpreparing] at hstate <;> cases hstate
    · rw [if_neg hpreparing]
      refine owned_bind (owned_recoverSupplemental h) fun g' record' hg' => ?_
      obtain ⟨hholds, hsame⟩ := hg'
      refine owned_mono (owned_recoverPrepared hholds) fun g'' _ hg'' hopen => ?_
      rw [hsame hopen] at hg''
      exact hg'' hopen

/-! ## The owner of a record in a recovery -/

/-- The desk is the one the owner of the record started from, but for that record. -/
structure Advanced (runId : String) (start : Desk) (g : Grip) (d : Desk) : Prop where
  sound : d.Sound
  fits : g.Fits runId d
  unstarted : g.unstarted = false
  records : ∀ other, other ≠ runId → d.inbox.records.get other = start.inbox.records.get other
  tombstones : ∀ other, other ≠ runId →
    d.inbox.tombstones.get other = start.inbox.tombstones.get other
  sent : d.sent = start.sent ++ g.sent

/-- The grip a recovery, or the reader, takes of a record. -/
def Desk.grip (d : Desk) (runId : String) : Grip where
  record := d.inbox.records.get runId
  unstarted := false
  unfenced := false
  sent := []

theorem Desk.grip_fits (d : Desk) (runId : String) : (d.grip runId).Fits runId d :=
  ⟨rfl, nofun, nofun⟩

theorem Desk.Sound.advanced {d : Desk} (hs : d.Sound) (runId : String) :
    Advanced runId d (d.grip runId) d :=
  ⟨hs, d.grip_fits runId, rfl, fun _ _ => rfl, fun _ _ => rfl, (List.append_nil _).symm⟩

variable {d : Desk}

/-- An owner's operation, seen from the recovery. -/
theorem Advanced.step {start : Desk} (h : Advanced runId start g d) {op : Op}
    (ho : Owns polite runId g op) {response : op.Resp} {d' : Desk}
    (hn : (recovering config polite).next d op response d') :
    ∃ g', (ownership config polite runId).next g op response g' ∧ Advanced runId start g' d' := by
  obtain ⟨⟨i', hp, rfl⟩, hpolite⟩ := hn
  have hsound := sound_step h.sound h.fits ho hp
  refine ⟨g.after runId op response (i'.records.get runId), ⟨⟨d.inbox, i', h.fits.record.symm, hp,
    rfl, hpolite⟩, fun record hrecord => hsound.wf runId record hrecord⟩, ?_⟩
  refine ⟨hsound, fits_step h.sound h.fits ho hp, ?_, ?_, ?_, ?_⟩
  · simp [Grip.after, h.unstarted]
  · intro other hne
    exact ((owns_frame ho hp hne).1).trans (h.records other hne)
  · intro other hne
    exact ((owns_frame ho hp hne).2).trans (h.tombstones other hne)
  · change d.sent ++ op.sends response = start.sent ++ (g.sent ++ op.sends response)
    rw [h.sent, List.append_assoc]

/-- **An owner's program is a recovery's program.** -/
theorem Owned.recovering {α : Type} {x : Prog α} {P : Grip → α → Prop} {start : Desk}
    (hx : Owned config polite runId g x P) (h : Advanced runId start g d) :
    Proc.Keeps (recovering config polite)
      (Proc.Ends fun d' a => ∃ g', Advanced runId start g' d' ∧ P g' a) d x := by
  refine hx.refine (Advanced runId start) ?_ ?_ h
  · intro g d op hadvanced ho
    refine ⟨.inr ⟨runId, g, hadvanced.fits, hadvanced.unstarted, ho⟩, fun response d' hn => ?_⟩
    exact hadvanced.step ho hn
  · intro g d r hadvanced hP a ha
    exact ⟨g, hadvanced, hP a ha⟩

/-! ## All records -/

/-- **The loop of a recovery.** The records it has not come to are as they were found; the open
ones among the others were reported. -/
structure Recovering (found : Inbox) (remaining : List Record) (d : Desk) : Prop where
  sound : d.Sound
  ids : ∀ runId record, found.records.get runId = some record → record.runId = runId
  distinct : (remaining.map (·.runId)).Nodup
  untouched : ∀ record ∈ remaining, found.records.get record.runId = some record ∧
    d.inbox.records.get record.runId = some record ∧
    d.inbox.tombstones.get record.runId = found.tombstones.get record.runId
  reported : ∀ runId record, found.records.get runId = some record → record.open_ →
    record ∉ remaining → Reported found d runId record

/-- The tombstone's answer does not touch the desk. -/
theorem recovering_hasCancellation {α : Type} {request : RunRequest} {f : Bool → Prog α}
    {P : Desk → α → Prop}
    (h : ∀ canceled, (d.inbox.tombstones.get request.runId).isSome = canceled →
      Proc.Keeps (recovering config polite) (Proc.Ends P) d (f canceled)) :
    Proc.Keeps (recovering config polite) (Proc.Ends P) d
      (inbox (.hasCancellation request) >>= f) := by
  have hfits := d.grip_fits request.runId
  refine Proc.keeps_call (.inr ⟨_, _, hfits, rfl, trivial⟩) fun response d' hn => ?_
  obtain ⟨⟨i', hp, rfl⟩, -⟩ := hn
  cases response with
  | error e => exact Proc.ends_fail
  | ok canceled =>
    have hrun : Inbox.hasCancellation request d.inbox = (.ok canceled, i') := hp.inbox_ok
    have hsame : ∀ i, i = d.inbox → d.performed (.inbox (.hasCancellation request))
        (.ok canceled) i = d := by
      rintro i rfl
      simp [Desk.performed, Op.starts, Op.fences, Op.sends]
    rcases Inbox.hasCancellation_cases request d.inbox with ⟨e, hc⟩ | ⟨hnone, hc⟩ | ⟨hsome, hc⟩
    · rw [hc] at hrun
      cases hrun
    · rw [hc] at hrun
      cases hrun
      rw [hsame _ rfl]
      exact h false (by rw [hnone]; rfl)
    · rw [hc] at hrun
      cases hrun
      rw [hsame _ rfl]
      exact h true hsome

/-- One pass of the loop. -/
theorem recovering_record {found : Inbox} {rest : List Record}
    (h : Recovering found (record :: rest) d) :
    Proc.Keeps (recovering config polite) (Proc.Ends fun d' _ => Recovering found rest d') d
      (recoverRecord config record) := by
  obtain ⟨hfound, hget, htombstone⟩ := h.untouched record (by simp)
  have hw := h.sound.wf _ _ hget
  have hdistinct : (∀ r ∈ rest, r.runId ≠ record.runId) ∧ (rest.map (·.runId)).Nodup := by
    simpa using h.distinct
  refine recovering_hasCancellation fun canceled hcanceled => ?_
  have hholds : (d.grip record.runId).Holds record.runId record := ⟨hget, hw⟩
  have howned : Owned config polite record.runId (d.grip record.runId) _ _ :=
    owned_recoverCanceled hholds canceled
  refine Proc.ends_mono (howned.recovering (h.sound.advanced _)) fun d' _ hd' => ?_
  obtain ⟨g', hg', hreport⟩ := hd'
  refine ⟨hg'.sound, h.ids, hdistinct.2, fun r hr => ?_, fun id r hr hopen hnot => ?_⟩
  · -- the records to come are other Runs'
    obtain ⟨hr', hi', ht'⟩ := h.untouched r (by simp [hr])
    have hne := hdistinct.1 r hr
    exact ⟨hr', (hg'.records _ hne).trans hi', (hg'.tombstones _ hne).trans ht'⟩
  · have hid := h.ids id r hr
    by_cases hthis : r = record
    · subst hthis
      subst hid
      obtain ⟨hrecord, hevent⟩ := hreport hopen
      have hsent : ∀ event, event ∈ g'.sent → event ∈ d'.sent := by
        intro event hmem
        rw [hg'.sent]
        exact List.mem_append_right _ hmem
      rw [hw.requestId, htombstone] at hcanceled
      have hafter : d'.inbox.records.get r.runId = g'.record := hg'.fits.record.symm
      cases canceled with
      | true => exact .inr ⟨hcanceled, hafter.trans hrecord, hsent _ hevent⟩
      | false =>
        have hnone : found.tombstones.get r.runId = none := by simpa using hcanceled
        exact .inl ⟨hnone, hafter.trans hrecord, hsent _ hevent⟩
    · have hne : id ≠ record.runId := by
        intro heq
        rw [heq, hfound] at hr
        exact hthis (Option.some.inj hr).symm
      have hold := h.reported id r hr hopen (by simp [hthis, hnot])
      unfold Reported at hold ⊢
      rw [hg'.records id hne, hg'.sent]
      rcases hold with ⟨hnone, hrecord, hevent⟩ | ⟨hsome, hrecord, hevent⟩
      · exact .inl ⟨hnone, hrecord, List.mem_append_left _ hevent⟩
      · exact .inr ⟨hsome, hrecord, List.mem_append_left _ hevent⟩

theorem recoverable_eq (records : List Record) (h : ∀ record ∈ records, record.Wf record.runId) :
    recoverable true records = pure records := by
  induction records with
  | nil => rfl
  | cons record records ih =>
    have hw := h record (by simp)
    unfold recoverable
    rw [if_neg (by simp [hw.ungoverned]), hw.valid, ih fun r hr => h r (by simp [hr])]
    rfl

/-- **A recovery reports every open record it found.** -/
theorem recovering_recover (hs : d.Sound) :
    Proc.Keeps (recovering config polite) (Proc.Ends fun d' _ => Recovered d.inbox d') d
      (recover config true) := by
  refine Proc.keeps_call (.inl rfl) fun response d' hn => ?_
  obtain ⟨⟨i', hp, rfl⟩, -⟩ := hn
  cases response with
  | error e => exact Proc.ends_fail
  | ok records =>
    have hrun : Inbox.list d.inbox = (.ok records, i') := hp.inbox_ok
    rcases Inbox.list_cases d.inbox with ⟨e, hl⟩ | hl
    · rw [hl] at hrun
      cases hrun
    · rw [hl] at hrun
      cases hrun
      -- a listing leaves the desk as it is
      have hsame : d.performed (.inbox .list)
          (.ok (d.inbox.records.rows.insertionSort fun a b =>
            Inbox.fileName a.runId ≤ Inbox.fileName b.runId)) d.inbox = d := by
        simp [Desk.performed, Op.starts, Op.fences, Op.sends]
      rw [hsame]
      -- the records in the order of their files: each one, once
      have hperm := List.perm_insertionSort
        (fun a b : Record => Inbox.fileName a.runId ≤ Inbox.fileName b.runId) d.inbox.records.rows
      generalize hrecords : (d.inbox.records.rows.insertionSort fun a b =>
        Inbox.fileName a.runId ≤ Inbox.fileName b.runId) = records at hperm
      have hids : ∀ id record, d.inbox.records.get id = some record → record.runId = id :=
        fun id record hget => (hs.wf id record hget).id
      have hget : ∀ record ∈ records, d.inbox.records.get record.runId = some record := by
        intro record hmem
        obtain ⟨id, hid⟩ := Table.mem_rows.mp (hperm.mem_iff.mp hmem)
        rw [hids id record hid]
        exact hid
      have hmem : ∀ id record, d.inbox.records.get id = some record → record ∈ records :=
        fun id record h => hperm.mem_iff.mpr (Table.mem_rows.mpr ⟨id, h⟩)
      have hstart : Recovering d.inbox records d :=
        { sound := hs
          ids := hids
          distinct := ((hperm.map _).nodup_iff).mpr (Table.nodup_rows_map hids)
          untouched := fun record hr => ⟨hget record hr, hget record hr, rfl⟩
          reported := fun id record hfound _ hnot => absurd (hmem id record hfound) hnot }
      change Proc.Keeps _ _ d (recoverable true records >>= fun records =>
        Proc.forEach (recoverRecord config) records)
      rw [recoverable_eq records fun record hr => hs.wf _ _ (hget record hr)]
      -- one record after another, by the invariant of the loop
      have hpass : ∀ record rest d', Recovering d.inbox (record :: rest) d' →
          Proc.Keeps (recovering config polite)
            (Proc.Ends fun d'' _ => Recovering d.inbox rest d'') d'
            (recoverRecord config record) := fun _ _ _ h => recovering_record h
      refine Proc.ends_mono (Proc.ends_forEach records hpass hstart) fun d' _ hd' => ?_
      exact fun id record hfound hopen => hd'.reported id record hfound hopen (by simp)

end Recovery

end AgentRoom.Bridge
