import AgentRoom.Bridge.Invariant

/-!
# The adapter runs at most once

Over the whole history of a data directory the adapter of a Run is started at most
once. A Run that is admitted while its tombstone is there never runs. Once the
record says that a Run was admitted and no worker has it, as after every crash, the
Run is not started any more: a recovery reports it.

Every path of the Bridge but one leaves a record that has ended as it is, but for
supplemental evidence; a record that waits for input may still be canceled. The
exception is the emit callback: it persists whatever the adapter emits, also after
the Runtime has ended. In every run whose adapters are polite, which emit nothing
worth persisting once the record they write to is terminal, the first terminal
state is final.
-/

namespace AgentRoom.Bridge

/-- The record says that the Run was admitted. -/
def Admitted (runId : String) (d : Desk) : Prop :=
  ∃ record, d.inbox.records.get runId = some record ∧ record.state ≠ .preparing

/-- **The Run is not started any more**: it was admitted, and whoever owns its record does not take
it for unstarted. -/
structure Closed (config : Config) (runId : String) (w : World) : Prop where
  admitted : Admitted runId w.toDesk
  worker : ∀ worker, w.workers.get runId = some worker →
    ∃ g : Grip, g.Fits runId w.toDesk ∧ g.unstarted = false ∧
      Owned config False runId g worker.program fun _ _ => True

section Closed

variable {config : Config} {adapters : List String} {runId : String} {w w' : World}

/-- One operation of any owner leaves the Run admitted and unstarted again. -/
theorem admitted_step {polite : Prop} {owner : String} {g : Grip} {op : Op} {d : Desk}
    {response : op.Resp} {i' : Inbox} (hf : g.Fits owner d) (ho : Owns polite owner g op)
    (hp : Performs config op d.inbox response i') (h : Admitted runId d)
    (hu : runId = owner → g.unstarted = false) :
    Admitted runId (d.performed op response i') ∧
      (d.performed op response i').started.count runId = d.started.count runId := by
  have hi : d.inbox.records.get owner = g.record := hf.record.symm
  obtain ⟨record, hget, hstate⟩ := h
  have hcount : runId ∉ op.starts →
      (d.performed op response i').started.count runId = d.started.count runId := by
    intro hnot
    have hzero : op.starts.count runId = 0 := List.count_eq_zero.mpr hnot
    rw [Desk.performed, List.count_append, hzero, Nat.add_zero]
  by_cases hid : runId = owner
  · subst hid
    have hunstarted := hu rfl
    obtain ⟨record', hafter, hstate'⟩ :=
      (owns_moves ho hi hp).admitted_stays hunstarted (hi.symm.trans hget) hstate
    refine ⟨⟨record', hafter, hstate'⟩, hcount fun hstarts => ?_⟩
    have := (starts_owned ho hstarts).2.1
    rw [hunstarted] at this
    cases this
  · refine ⟨⟨record, (owns_frame ho hp hid).1.trans hget, hstate⟩, hcount fun hstarts => ?_⟩
    exact hid (starts_owned ho hstarts).1

/-- A step that changes neither the desk nor the workers. -/
theorem closed_same (h : Closed config runId w) (hdesk : w'.inbox = w.inbox)
    (hstarted : w'.started = w.started) (hfenced : w'.fenced = w.fenced)
    (hworkers : ∀ worker, w'.workers.get runId = some worker →
      w.workers.get runId = some worker) :
    Closed config runId w' ∧ w'.started.count runId = w.started.count runId := by
  refine ⟨⟨?_, fun worker hget => ?_⟩, by rw [hstarted]⟩
  · unfold Admitted
    rw [hdesk]
    exact h.admitted
  · obtain ⟨g, hf, hu, ho⟩ := h.worker worker (hworkers worker hget)
    refine ⟨g, ⟨?_, ?_, ?_⟩, hu, ho⟩
    · rw [hdesk]
      exact hf.record
    · rw [hstarted]
      exact hf.unstarted
    · rw [hfenced]
      exact hf.unfenced

/-- **A closed Run stays closed.** -/
theorem closed_step {label : Label} (hinv : Inv config False w)
    (hs : Step config adapters label w w') (h : Closed config runId w) :
    Closed config runId w' ∧ w'.started.count runId = w.started.count runId := by
  cases hs with
  | dial down => exact closed_same h rfl rfl rfl fun _ hget => hget
  | recovered | recoveryFailed | connect | cancel | readerEnd | readerFailed | disconnect
  | drained => exact closed_same h rfl rfl rfl fun _ hget => hget
  | crash => exact closed_same h rfl rfl rfl fun _ hget => by cases hget
  | @workerEnd _ id worker active ended =>
    refine closed_same h rfl rfl rfl fun other hget => ?_
    rw [Table.get_remove] at hget
    split at hget
    · cases hget
    · exact hget
  | @deliver _ request online reading inactive =>
    obtain ⟨record, hget, hstate⟩ := h.admitted
    refine ⟨⟨h.admitted, fun worker hworker => ?_⟩, rfl⟩
    rw [Table.get_put] at hworker
    split at hworker
    · rename_i hid
      cases hworker
      -- the record says admitted, so the delivery does not need an unstarted Run
      refine ⟨w.toDesk.grip runId, w.toDesk.grip_fits runId, rfl, ?_⟩
      refine owned_handle adapters hid.symm fun hpreparing => ?_
      exact absurd (hpreparing record hget) hstate
    · exact h.worker worker hworker
  | @workerOp _ id worker op k response i' active program performs =>
    by_cases hid : id = runId
    · subst hid
      -- the worker of the Run itself, which does not start it again
      obtain ⟨g, hf, hu, ho⟩ := h.worker worker active
      rw [program] at ho
      obtain ⟨hadmitted, hcount⟩ := admitted_step hf ho.1 performs h.admitted fun _ => hu
      obtain ⟨-, g', hf', hu', ho'⟩ := owner_step hinv.sound hf ho performs False.elim
      refine ⟨⟨hadmitted, fun worker' hworker => ?_⟩, hcount⟩
      rw [Table.get_put_self] at hworker
      cases hworker
      exact ⟨g', hf', hu' hu, ho'⟩
    · -- a worker of another Run does not touch this one
      obtain ⟨g, hf, ho⟩ := hinv.workers id worker active
      rw [program] at ho
      have hne : runId ≠ id := fun heq => hid heq.symm
      obtain ⟨hadmitted, hcount⟩ :=
        admitted_step hf ho.1 performs h.admitted fun heq => absurd heq hne
      refine ⟨⟨hadmitted, fun worker' hworker => ?_⟩, hcount⟩
      rw [Table.get_put_ne _ _ hne] at hworker
      obtain ⟨g', hf', hu', ho'⟩ := h.worker worker' hworker
      exact ⟨g', fits_frame hf' ho.1 hf.record.symm performs hne, hu', ho'⟩
  | @readerOp _ id op k response i' reading performs =>
    rcases hinv.reader id _ reading with ⟨hidle, g, hf, hu, ho⟩ | ⟨seen, hsaw, hk⟩
    · obtain ⟨hadmitted, hcount⟩ := admitted_step hf ho.1 performs h.admitted fun _ => hu
      refine ⟨⟨hadmitted, fun worker hworker => ?_⟩, hcount⟩
      have hne : runId ≠ id := by
        intro heq
        have hworker' : w.workers.get id = some worker := by rw [← heq]; exact hworker
        rw [hidle] at hworker'
        cases hworker'
      obtain ⟨g', hf', hu', ho'⟩ := h.worker worker hworker
      exact ⟨g', fits_frame hf' ho.1 hf.record.symm performs hne, hu', ho'⟩
    · obtain ⟨hstarted, hfenced, hrecords⟩ := staging_performed hk.1 performs
      refine ⟨⟨?_, fun worker hworker => ?_⟩, ?_⟩
      · obtain ⟨record, hget, hstate⟩ := h.admitted
        refine ⟨record, ?_, hstate⟩
        change ((w.toDesk.performed op response i').inbox).records.get runId = some record
        rw [hrecords]
        exact hget
      · obtain ⟨g', hf', hu', ho'⟩ := h.worker worker hworker
        exact ⟨g', staging_fits hk.1 performs hf', hu', ho'⟩
      · change (w.toDesk.performed op response i').started.count runId = _
        rw [hstarted]
  | @recoveryOp _ op k response i' phase performs =>
    have hquiet := hinv.quiet (by rw [phase]; rfl)
    have hnone : ∀ worker, w.workers.get runId ≠ some worker := by
      intro worker hget
      rw [hquiet.1 runId] at hget
      cases hget
    rcases (hinv.recovering _ phase).1 with rfl | ⟨id, g, hf, hu, ho⟩
    · have hsame := performed_list performs
      refine ⟨⟨?_, fun worker hget => absurd hget (hnone worker)⟩, ?_⟩
      · change Admitted runId (w.toDesk.performed _ response i')
        rw [hsame]
        exact h.admitted
      · change (w.toDesk.performed _ response i').started.count runId = _
        rw [hsame]
    · obtain ⟨hadmitted, hcount⟩ := admitted_step hf ho performs h.admitted fun _ => hu
      exact ⟨⟨hadmitted, fun worker hget => absurd hget (hnone worker)⟩, hcount⟩

/-- A Run closed at `a` is closed at `b`, without another start. -/
def StaysClosed (config : Config) (runId : String) (a b : World) : Prop :=
  Closed config runId a →
    Closed config runId b ∧ b.started.count runId = a.started.count runId

/-- **No start after the admission was left to recovery**, over every run. -/
theorem closed_steps (hreach : (bridge config adapters).Reachable w)
    (hs : (bridge config adapters).Steps w w') (h : Closed config runId w) :
    w'.started.count runId = w.started.count runId := by
  have hall : StaysClosed config runId w w' := by
    refine System.along_run (fun _ ha => ⟨ha, rfl⟩) (fun a b c hab hbc ha => ?_)
      (fun _ _ _ hr hstep ha => closed_step (inv_reachable hr) hstep ha) hreach hs
    obtain ⟨hb, hcount⟩ := hab ha
    obtain ⟨hc, hcount'⟩ := hbc hb
    exact ⟨hc, hcount'.trans hcount⟩
  exact (hall h).2

end Closed

/-- **At most once.** Over every run of the Bridge:

* no adapter is started twice for one Run;
* none is started for a Run that was admitted while its tombstone was there;
* a Run that was admitted and has no worker is not started any more, in a recovery or after it;
* and when a recovery has returned, every record it found accepted or working was reported: as of
  unknown outcome, or as canceled where its tombstone was there. -/
theorem adapter_at_most_once (config : Config) (adapters : List String) (w : World)
    (h : (bridge config adapters).Reachable w) :
    (∀ runId, w.started.count runId ≤ 1) ∧
    (∀ runId ∈ w.fenced, runId ∉ w.started) ∧
    (∀ w' runId, (bridge config adapters).Steps w w' → w.workers.get runId = none →
      Admitted runId w.toDesk → w'.started.count runId = w.started.count runId) ∧
    (w.phase = .recovered → Recovered w.found w.toDesk) := by
  have hinv := inv_reachable h
  refine ⟨fun runId => ?_, hinv.sound.unrun, fun w' runId hs hidle hadmitted => ?_,
    hinv.recovered⟩
  · exact List.nodup_iff_count_le_one.mp hinv.sound.once runId
  · refine closed_steps h hs ⟨hadmitted, fun worker hget => ?_⟩
    rw [hidle] at hget
    cases hget

/-- A Run whose adapter reported that it works; then a crash and a recovery. -/
def crashedRun : Option World :=
  World.blank.play plainConfig [sampleRequest.targetAgentId]
    (emitting 1 { status := some .working })
    (connecting ++ delivering 17 ++ [.crash, .dial] ++ List.replicate 8 .recoveryOp ++
      [.recoveryEnd])

theorem crashedRun_facts : crashedRun.map (fun w => w.started) = some [sampleRequest.runId] := by
  decide +kernel

/-- The crashed Run was started once, and its one recovery reported it. -/
theorem crashedRun_at_most_once : ∃ w, crashedRun = some w ∧ w.started = [sampleRequest.runId] ∧
    (∀ runId, w.started.count runId ≤ 1) ∧
    (∀ runId ∈ w.fenced, runId ∉ w.started) ∧
    (∀ w' runId, (bridge plainConfig [sampleRequest.targetAgentId]).Steps w w' →
      w.workers.get runId = none → Admitted runId w.toDesk →
        w'.started.count runId = w.started.count runId) ∧
    (w.phase = .recovered → Recovered w.found w.toDesk) := by
  obtain ⟨w, hw, hstarted⟩ := Option.map_eq_some_iff.mp crashedRun_facts
  refine ⟨w, hw, hstarted, ?_⟩
  have hsteps := World.play_steps _ _ _ hw
  exact adapter_at_most_once _ _ w
    (System.reachable_steps (World.blank_reachable plainConfig _) hsteps)

/-- No Run is started once its tombstone was there before its record. -/
def CanceledNeverRuns (config : Config) (adapters : List String) : Prop :=
  ∀ w w' runId, (bridge config adapters).Reachable w →
    (w.inbox.tombstones.get runId).isSome → w.inbox.records.get runId = none →
    (bridge config adapters).Steps w w' → runId ∉ w'.started

/-- The cancellation of a Run the Bridge never saw: its tombstone is recorded, -/
def canceledUnseen : List Cue :=
  connecting ++ [.cancel sampleCancel] ++ List.replicate 2 .readerOp

/-- reported and forgotten; then the Run is delivered. -/
def deliveredLate : List Cue :=
  List.replicate 2 .readerOp ++ [.readerEnd] ++ delivering 15

/-- A reported cancellation is forgotten: the Run runs if it is delivered after all. -/
theorem not_canceledNeverRuns :
    ¬ CanceledNeverRuns plainConfig [sampleRequest.targetAgentId] := by
  intro h
  have hfacts : ((World.blank.play plainConfig [sampleRequest.targetAgentId] (emitting 0 {})
        canceledUnseen).map fun w =>
      ((w.inbox.tombstones.get sampleRequest.runId).isSome,
        (w.inbox.records.get sampleRequest.runId).isNone,
        (w.play plainConfig [sampleRequest.targetAgentId] (emitting 0 {}) deliveredLate).map
          fun w' => decide (sampleRequest.runId ∈ w'.started))) =
      some (true, true, some true) := by
    decide +kernel
  obtain ⟨w, hw, hfacts⟩ := Option.map_eq_some_iff.mp hfacts
  simp only [Prod.mk.injEq] at hfacts
  obtain ⟨htombstone, hrecord, hlate⟩ := hfacts
  obtain ⟨w', hw', hstarted⟩ := Option.map_eq_some_iff.mp hlate
  have hreach := System.reachable_steps (World.blank_reachable plainConfig _)
    (World.play_steps _ _ _ hw)
  have hnone : w.inbox.records.get sampleRequest.runId = none := by simpa using hrecord
  refine h w w' sampleRequest.runId hreach htombstone hnone (World.play_steps _ _ _ hw') ?_
  simpa using hstarted

/-! ## How a record ends -/

/-- The record waited for input and was canceled, once. -/
def Record.WaitedCanceled (record record' : Record) : Prop :=
  record.state = .inputRequired ∧ record'.state = .canceled ∧
    ∃ (evidence : List SupplementalMessage) (message : OutboxMessage)
      (evidence' : List SupplementalMessage),
      record'.events = record.events ++ evidence.map .supplemental ++ [message] ++
        evidence'.map .supplemental

/-- **How a terminal record goes on.** -/
def Record.Rests (record record' : Record) : Prop :=
  record.Final record' ∨ record.WaitedCanceled record'

theorem Record.Rests.terminal {record record' : Record} (h : record.Rests record')
    (hterminal : isTerminalState record.state = true) :
    isTerminalState record'.state = true := by
  rcases h with hfinal | ⟨-, hcanceled, -⟩
  · rw [hfinal.2.1, hterminal]
  · rw [hcanceled]
    rfl

theorem Record.Rests.trans {a b c : Record} (hab : a.Rests b) (hbc : b.Rests c) : a.Rests c := by
  rcases hab with hab | ⟨hwaits, hcanceled, evidence, message, evidence', hevents⟩
  · rcases hbc with hbc | ⟨hwaits, hcanceled, evidence, message, evidence', hevents⟩
    · exact .inl (hab.trans hbc)
    · obtain ⟨-, hstate, -, before, hbefore⟩ := hab
      refine .inr ⟨hstate.symm.trans hwaits, hcanceled, before ++ evidence, message, evidence', ?_⟩
      rw [hevents, hbefore, List.map_append]
      simp
  · rcases hbc with hbc | ⟨hwaits', -⟩
    · obtain ⟨-, hstate, -, after, hafter⟩ := hbc
      refine .inr ⟨hwaits, hstate.trans hcanceled, evidence, message, evidence' ++ after, ?_⟩
      rw [hafter, hevents, List.map_append]
      simp
    · rw [hcanceled] at hwaits'
      cases hwaits'

/-- Every terminal record of `a` rests in `b`. -/
def TerminalRests (a b : World) : Prop :=
  ∀ runId record, a.inbox.records.get runId = some record →
    isTerminalState record.state = true →
    ∃ record', b.inbox.records.get runId = some record' ∧ record.Rests record'

section Final

variable {config : Config} {adapters : List String} {w w' : World}

theorem TerminalRests.refl (w : World) : TerminalRests w w :=
  fun _ record hget _ => ⟨record, hget, .inl (.refl record)⟩

theorem TerminalRests.trans {a b c : World} (hab : TerminalRests a b) (hbc : TerminalRests b c) :
    TerminalRests a c := by
  intro runId record hget hterminal
  obtain ⟨record', hget', hrests⟩ := hab runId record hget hterminal
  obtain ⟨record'', hget'', hrests'⟩ := hbc runId record' hget' (hrests.terminal hterminal)
  exact ⟨record'', hget'', hrests.trans hrests'⟩

theorem rests_same (h : w'.inbox.records = w.inbox.records) : TerminalRests w w' := by
  intro runId record hget _
  exact ⟨record, by rw [h, hget], .inl (.refl record)⟩

/-- An owner whose adapter is polite lets a terminal record rest. -/
theorem rests_owned {owner : String} {g : Grip} {op : Op} {response : op.Resp} {i' : Inbox}
    (hf : g.Fits owner w.toDesk) (ho : Owns True owner g op)
    (hp : Performs config op w.inbox response i') (hw' : w'.inbox = i') : TerminalRests w w' := by
  intro runId record hget hterminal
  have hi : w.inbox.records.get owner = g.record := hf.record.symm
  by_cases hid : runId = owner
  · subst hid
    have hheld : g.record = some record := hi.symm.trans hget
    have hmoves := owns_moves ho hi hp
    by_cases hended : isCancellationTerminalState record.state = true
    · obtain ⟨record', hafter, hfinal⟩ := hmoves.final hheld hended (.inr trivial)
      exact ⟨record', by rw [hw', hafter], .inl hfinal⟩
    · have hwaits : record.state = .inputRequired := by
        cases hstate : record.state <;> rw [hstate] at hended hterminal <;>
          first | rfl | exact absurd hterminal (by decide) | exact absurd rfl hended
      obtain ⟨record', hafter, hfinal | ⟨message, hcanceled⟩⟩ := hmoves.waiting hheld hwaits trivial
      · exact ⟨record', by rw [hw', hafter], .inl hfinal⟩
      · refine ⟨record', by rw [hw', hafter],
          .inr ⟨hwaits, by rw [hcanceled]; rfl, [], message, [], ?_⟩⟩
        rw [hcanceled]
        simp [Record.appended]
  · refine ⟨record, ?_, .inl (.refl record)⟩
    rw [hw', (owns_frame ho hp hid).1, hget]

/-- **One polite step lets every terminal record rest.** -/
theorem rests_step {label : Label} (hinv : Inv config True w)
    (hs : Step config adapters label w w') : TerminalRests w w' := by
  cases hs with
  | dial | recovered | recoveryFailed | connect | deliver | workerEnd | cancel | readerEnd
  | readerFailed | disconnect | drained | crash => exact rests_same rfl
  | @workerOp _ id worker op k response i' active program performs =>
    obtain ⟨g, hf, ho⟩ := hinv.workers id worker active
    rw [program] at ho
    exact rests_owned hf ho.1 performs rfl
  | @readerOp _ id op k response i' reading performs =>
    rcases hinv.reader id _ reading with ⟨hidle, g, hf, hu, ho⟩ | ⟨seen, hsaw, hk⟩
    · exact rests_owned hf ho.1 performs rfl
    · exact rests_same (staging_performed hk.1 performs).2.2
  | @recoveryOp _ op k response i' phase performs =>
    rcases (hinv.recovering _ phase).1 with rfl | ⟨id, g, hf, hu, ho⟩
    · refine rests_same ?_
      have hsame := performed_list performs
      exact congrArg (fun d : Desk => d.inbox.records) hsame
    · exact rests_owned hf ho performs rfl

end Final

/-- **The first terminal state is final, if the adapters are polite.** In every run in which an
adapter emits nothing persistable while its events are numbered in step with a terminal record, a
terminal record keeps its state and its events in every later state of the run, but for supplemental
evidence; only one that waits for input may still be canceled, once. -/
theorem polite_records_final (config : Config) (adapters : List String) (w w' : World)
    (h : ((bridge config adapters).restrict (PoliteStep config)).Reachable w)
    (hs : ((bridge config adapters).restrict (PoliteStep config)).Steps w w') (runId : String)
    (record : Record) (hget : w.inbox.records.get runId = some record)
    (hterminal : isTerminalState record.state = true) :
    ∃ record', w'.inbox.records.get runId = some record' ∧
      ((record'.state = record.state ∧ record'.lastSequence = record.lastSequence ∧
          ∃ evidence : List SupplementalMessage,
            record'.events = record.events ++ evidence.map .supplemental) ∨
        record.WaitedCanceled record') := by
  have hrests : TerminalRests w w' := by
    refine System.along_run TerminalRests.refl (fun _ _ _ => TerminalRests.trans) ?_ h hs
    intro label a b hr hstep
    exact rests_step (inv_polite hr) hstep.2
  obtain ⟨record', hget', ⟨-, hstate, hlast, hevents⟩ | hcanceled⟩ :=
    hrests runId record hget hterminal
  · exact ⟨record', hget', .inl ⟨hstate, hlast, hevents⟩⟩
  · exact ⟨record', hget', .inr hcanceled⟩

theorem emitting_polite (count : Nat) (label : Label) (w : World)
    (h : ∀ op response, label.performed? = some ⟨op, response⟩ →
      (respond plainConfig (emitting count {}) w.inbox op).1 = response) :
    PoliteStep plainConfig label w := by
  intro op response hperformed
  have hresponse := h op response hperformed
  cases op with
  | runtimeEvent runId artifacts sequence =>
    intro record _ _ _
    rw [← hresponse]
    rfl
  | inbox _ | send _ | prepare _ | resolveArtifacts _ | explicitCancel _ | acquire _
  | startRuntime _ | runtimeReturn _ => trivial

/-- A crash during the preparation of a Run, a recovery, and the Run's cancellation. -/
def canceledPreparing : List Cue :=
  connecting ++ delivering 3 ++ [.crash, .dial, .recoveryOp, .recoveryOp, .recoveryEnd, .connect,
    .cancel sampleCancel] ++ List.replicate 5 .readerOp

theorem canceledPreparing_facts :
    ((World.blank.play plainConfig [sampleRequest.targetAgentId] (emitting 0 {})
        canceledPreparing).map fun w =>
      ((w.inbox.records.get sampleRequest.runId).map Record.state,
        (w.play plainConfig [sampleRequest.targetAgentId] (emitting 0 {})
          (List.replicate 3 .readerOp)).isSome)) = some (some .canceled, true) := by
  decide +kernel

/-- The canceled record is still the same when its cancellation has been reported. -/
theorem canceledPreparing_final : ∃ w w' record record',
    World.blank.play plainConfig [sampleRequest.targetAgentId] (emitting 0 {})
      canceledPreparing = some w ∧
    w.play plainConfig [sampleRequest.targetAgentId] (emitting 0 {})
      (List.replicate 3 .readerOp) = some w' ∧
    w.inbox.records.get sampleRequest.runId = some record ∧ record.state = .canceled ∧
    w'.inbox.records.get sampleRequest.runId = some record' ∧
      ((record'.state = record.state ∧ record'.lastSequence = record.lastSequence ∧
          ∃ evidence : List SupplementalMessage,
            record'.events = record.events ++ evidence.map .supplemental) ∨
        record.WaitedCanceled record') := by
  obtain ⟨w, hw, hfacts⟩ := Option.map_eq_some_iff.mp canceledPreparing_facts
  obtain ⟨hrecord, hlater⟩ := Prod.mk.inj hfacts
  obtain ⟨record, hget, hcanceled⟩ := Option.map_eq_some_iff.mp hrecord
  obtain ⟨w', hw'⟩ := Option.isSome_iff_exists.mp hlater
  have hpolite := emitting_polite 0
  have hreach : ((bridge plainConfig [sampleRequest.targetAgentId]).restrict
      (PoliteStep plainConfig)).Reachable w :=
    ⟨.blank, ⟨rfl, rfl, rfl, rfl, rfl, rfl⟩, World.play_restrict _ _ _ hpolite hw⟩
  obtain ⟨record', hget', hrests⟩ := polite_records_final plainConfig _ w w' hreach
    (World.play_restrict _ _ _ hpolite hw') _ record hget (by rw [hcanceled]; rfl)
  exact ⟨w, w', record, record', hw, hw', hget, hcanceled, hget', hrests⟩

/-- A record that has ended keeps its state, and no event but supplemental evidence is added. -/
def RecordsFinal (config : Config) (adapters : List String) : Prop :=
  ∀ w w' runId record, (bridge config adapters).Reachable w →
    (bridge config adapters).Steps w w' → w.inbox.records.get runId = some record →
    isCancellationTerminalState record.state = true →
    ∃ record', w'.inbox.records.get runId = some record' ∧ record'.state = record.state ∧
      ∃ evidence : List SupplementalMessage,
        record'.events = record.events ++ evidence.map .supplemental

/-- An adapter that completes its Run and then reports that it works. -/
def completedThenWorking : Answers
  | .runtimeEvent _ _ 1 => { status := some .completed }
  | op => emitting 2 { status := some .working } op

/-- **A completed record goes back to work** if the adapter says so. -/
theorem not_recordsFinal : ¬ RecordsFinal plainConfig [sampleRequest.targetAgentId] := by
  intro h
  have hfacts : ((World.blank.play plainConfig [sampleRequest.targetAgentId] completedThenWorking
        (connecting ++ delivering 17)).map fun w =>
      ((w.inbox.records.get sampleRequest.runId).map Record.state,
        (w.play plainConfig [sampleRequest.targetAgentId] completedThenWorking
          (List.replicate 3 (.workerOp sampleRequest.runId))).map fun w' =>
            (w'.inbox.records.get sampleRequest.runId).map Record.state)) =
      some (some .completed, some (some .working)) := by
    decide +kernel
  obtain ⟨w, hw, hfacts⟩ := Option.map_eq_some_iff.mp hfacts
  obtain ⟨hcompleted, hlater⟩ := Prod.mk.inj hfacts
  obtain ⟨record, hget, hstate⟩ := Option.map_eq_some_iff.mp hcompleted
  obtain ⟨w', hw', hworking⟩ := Option.map_eq_some_iff.mp hlater
  have hreach := System.reachable_steps
    (World.blank_reachable plainConfig [sampleRequest.targetAgentId])
    (World.play_steps _ _ _ hw)
  obtain ⟨record', hget', hsame, -⟩ := h w w' sampleRequest.runId record hreach
    (World.play_steps _ _ _ hw') hget (by rw [hstate]; rfl)
  rw [hget', Option.map_some, hsame, hstate] at hworking
  cases hworking

end AgentRoom.Bridge
