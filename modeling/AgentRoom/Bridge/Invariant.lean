import AgentRoom.Bridge.Recovery

/-!
# The Bridge keeps its desk sound

The invariant of the whole process: the desk is sound, every worker owns the record
of its Run, the reader owns the record of a Run without a worker or stages a
cancellation beside one, and a recovery keeps the discipline of recoveries.

Staging writes no record. It drops a tombstone only after it saw the record ended,
and the record of a fenced Run stays ended.
-/

namespace AgentRoom.Bridge

open RuntimeExecutor

/-! ## Staging a cancellation beside a worker -/

/-- The answer is the record of the Run, and it has ended. -/
def Op.seesEnded (runId : String) : (op : Op) → op.Resp → Bool
  | .inbox (.get id), .ok record => id = runId && isCancellationTerminalState record.state
  | _, _ => false

/-- **The discipline of a staged cancellation**; its phase is whether the record was seen ended. -/
def staging (config : Config) (runId : String) : Proc.Discipline bridgeInterface Bool where
  allowed seen op := match op with
    | .inbox (.recordCancellation requested) => requested.runId = runId
    | .inbox (.get id) => id = runId
    | .inbox (.clearCancellation id) => id = runId ∧ seen = true
    | _ => False
  next seen op response seen' := seen' = (seen || op.seesEnded runId response) ∧
    ∃ before after, Performs config op before response after ∧
      ∀ record, before.records.get runId = some record → record.Wf runId

/-- The staging saw the record; if the Run is fenced, the record has ended. -/
def SeenEnded (runId : String) (d : Desk) : Prop :=
  ∃ record, d.inbox.records.get runId = some record ∧
    (runId ∈ d.fenced → isCancellationTerminalState record.state = true)

section Staging

variable {config : Config} {polite : Prop} {runId : String}

theorem staging_stageCancellation {requested : RunCancelRequest} (hid : requested.runId = runId) :
    Proc.Keeps (staging config runId) (Proc.Ends fun _ _ => True) false
      (stageCancellation requested) := by
  subst hid
  refine Proc.keeps_call rfl fun response seen hn => ?_
  cases response with
  | error e => exact Proc.ends_fail
  | ok tombstone =>
    refine Proc.keeps_call rfl fun response seen' hn' => ?_
    cases response with
    | error e =>
      cases e with
      | notExist => exact Proc.ends_ret trivial
      | error message => exact Proc.ends_fail
    | ok record =>
      obtain ⟨hseen, before, after, hp, hwf⟩ := hn'
      have hget : before.records.get requested.runId = some record := by
        have hrun : Inbox.load requested.runId before = (.ok record, after) := hp.inbox_ok
        rcases hget : before.records.get requested.runId with _ | record'
        · rw [Inbox.load_none hget] at hrun
          cases hrun
        · rw [Inbox.load_some hget] at hrun
          cases hrun
          rfl
      by_cases hended : isCancellationTerminalState record.state = true
      · have hseen' : seen' = true := by
          rw [hseen]
          simp [Op.seesEnded, hended]
        change Proc.Keeps _ _ seen' (if isCancellationTerminalState record.state
          then inbox (.clearCancellation record.runId) else pure ())
        rw [if_pos hended]
        refine Proc.keeps_call ⟨(hwf record hget).id, hseen'⟩ fun response _ _ => ?_
        exact Proc.ends_ofExcept fun _ _ => trivial
      · change Proc.Keeps _ _ seen' (if isCancellationTerminalState record.state
          then inbox (.clearCancellation record.runId) else pure ())
        rw [if_neg hended]
        exact Proc.ends_ret trivial

variable {seen : Bool} {op : Op} {d : Desk} {response : op.Resp} {i' : Inbox}

/-- Staging writes no record and no history. -/
theorem staging_keeps (ha : (staging config runId).allowed seen op)
    (hp : Performs config op d.inbox response i') :
    i'.records = d.inbox.records ∧ op.starts = [] ∧ op.fences d.inbox i' = [] ∧
      (∀ other, other ≠ runId → i'.tombstones.get other = d.inbox.tombstones.get other) ∧
      (seen = false → (d.inbox.tombstones.get runId).isSome →
        (i'.tombstones.get runId).isSome) := by
  cases op with
  | inbox o =>
    cases o with
    | recordCancellation requested =>
      obtain rfl : requested.runId = runId := ha
      cases hp.effect with
      | nothing => exact ⟨rfl, rfl, rfl, fun _ _ => rfl, fun _ h => h⟩
      | cancel =>
        refine ⟨rfl, rfl, rfl, fun other hne => Table.get_put_ne _ _ hne, fun _ _ => ?_⟩
        rw [Table.get_put_self]
        rfl
    | get id =>
      cases hp.effect with
      | nothing => exact ⟨rfl, rfl, rfl, fun _ _ => rfl, fun _ h => h⟩
    | clearCancellation id =>
      obtain ⟨rfl, hseen⟩ := ha
      cases hp.effect with
      | nothing => exact ⟨rfl, rfl, rfl, fun _ _ => rfl, fun _ h => h⟩
      | clear =>
        refine ⟨rfl, rfl, rfl, fun other hne => Table.get_remove_ne _ hne, fun hno => ?_⟩
        rw [hseen] at hno
        cases hno
    | accept _ | appendEvent _ _ _ _ | appendSupplementalEvidence _ _ | list
    | quarantineIncompatibleTrace _ | update _ _ _ | transitionLocalState _ _ _
    | hasCancellation _ => exact ha.elim
  | send _ | prepare _ | resolveArtifacts _ | explicitCancel _ | acquire _ | startRuntime _
  | runtimeEvent _ _ _ | runtimeReturn _ => exact ha.elim

theorem staging_performed (ha : (staging config runId).allowed seen op)
    (hp : Performs config op d.inbox response i') :
    (d.performed op response i').started = d.started ∧
      (d.performed op response i').fenced = d.fenced ∧
      (d.performed op response i').inbox.records = d.inbox.records := by
  obtain ⟨hrecords, hstarts, hfences, -⟩ := staging_keeps ha hp
  refine ⟨?_, ?_, hrecords⟩
  · rw [Desk.performed, hstarts, List.append_nil]
  · rw [Desk.performed, hfences, List.append_nil]

/-- Staging keeps the desk sound: a tombstone goes only after the record was seen ended. -/
theorem staging_sound (ha : (staging config runId).allowed seen op)
    (hp : Performs config op d.inbox response i') (hs : d.Sound)
    (hseen : seen = true → SeenEnded runId d) :
    (d.performed op response i').Sound := by
  obtain ⟨hstarted, hfenced, hrecords⟩ := staging_performed ha hp
  obtain ⟨-, -, -, hother, hthis⟩ := staging_keeps ha hp
  refine ⟨?_, ?_, ?_, ?_, ?_⟩
  · rw [hrecords]
    exact hs.wf
  · rw [hstarted]
    exact hs.once
  · rw [hrecords, hstarted]
    exact hs.fresh
  · rw [hfenced, hstarted]
    exact hs.unrun
  · rw [hfenced, hrecords]
    intro id hid
    obtain ⟨record, hget, hstands⟩ := hs.stands id hid
    refine ⟨record, hget, ?_⟩
    by_cases hrun : id = runId
    · subst hrun
      cases seen with
      | true =>
        obtain ⟨record', hget', hended⟩ := hseen rfl
        obtain rfl := Option.mem_unique hget hget'
        exact .inl (hended hid)
      | false => exact hstands.imp_right (hthis rfl)
    · change _ ∨ (i'.tombstones.get id).isSome
      rw [hother id hrun]
      exact hstands

theorem staging_fits (ha : (staging config runId).allowed seen op)
    (hp : Performs config op d.inbox response i') {g : Grip} {other : String}
    (hf : g.Fits other d) :
    g.Fits other (d.performed op response i') := by
  obtain ⟨hstarted, hfenced, hrecords⟩ := staging_performed ha hp
  refine ⟨?_, ?_, ?_⟩
  · rw [hrecords]
    exact hf.record
  · rw [hstarted]
    exact hf.unstarted
  · rw [hfenced]
    exact hf.unfenced

/-- What was seen, or is seen now, stays so. -/
theorem staging_seen (ha : (staging config runId).allowed seen op)
    (hp : Performs config op d.inbox response i') (hseen : seen = true → SeenEnded runId d)
    (hnow : (seen || op.seesEnded runId response) = true) :
    SeenEnded runId (d.performed op response i') := by
  obtain ⟨-, hfenced, hrecords⟩ := staging_performed ha hp
  unfold SeenEnded
  rw [hfenced, hrecords]
  rcases Bool.or_eq_true _ _ ▸ hnow with hbefore | hsees
  · exact hseen hbefore
  · cases op with
    | inbox o =>
      cases o with
      | get id =>
        cases response with
        | error e => cases hsees
        | ok record =>
          have hsees' : id = runId ∧ isCancellationTerminalState record.state = true := by
            simpa [Op.seesEnded] using hsees
          obtain ⟨rfl, hended⟩ := hsees'
          have hrun : Inbox.load id d.inbox = (.ok record, i') := hp.inbox_ok
          rcases hget : d.inbox.records.get id with _ | record'
          · rw [Inbox.load_none hget] at hrun
            cases hrun
          · rw [Inbox.load_some hget] at hrun
            cases hrun
            exact ⟨_, rfl, fun _ => hended⟩
      | recordCancellation _ | clearCancellation _ | accept _ | appendEvent _ _ _ _
      | appendSupplementalEvidence _ _ | list | quarantineIncompatibleTrace _ | update _ _ _
      | transitionLocalState _ _ _ | hasCancellation _ => cases hsees
    | send _ | prepare _ | resolveArtifacts _ | explicitCancel _ | acquire _ | startRuntime _
    | runtimeEvent _ _ _ | runtimeReturn _ => cases hsees

end Staging

/-- What was seen of a record stays so while its owner goes on. -/
theorem SeenEnded.step {config : Config} {polite : Prop} {runId other : String} {g : Grip} {op : Op}
    {d : Desk} {response : op.Resp} {i' : Inbox} (h : SeenEnded other d) (hf : g.Fits runId d)
    (ho : Owns polite runId g op) (hp : Performs config op d.inbox response i') :
    SeenEnded other (d.performed op response i') := by
  have hi : d.inbox.records.get runId = g.record := hf.record.symm
  obtain ⟨record, hget, hended⟩ := h
  by_cases hid : other = runId
  · subst hid
    have hrecord : g.record = some record := hi.symm.trans hget
    have hold : other ∈ (d.performed op response i').fenced → other ∈ d.fenced := by
      intro hmem
      rcases fenced_performed hmem with hmem | hmem
      · exact hmem
      · have hnone := (fences_owned ho hi hp hmem).2.1
        rw [hrecord] at hnone
        cases hnone
    by_cases hfenced : other ∈ d.fenced
    · have hunfenced : g.unfenced = false := by
        by_contra hu
        exact (hf.unfenced (by simpa using hu)).2 hfenced
      obtain ⟨record', hafter, -, hstate, -⟩ :=
        (owns_moves ho hi hp).final hrecord (hended hfenced) (.inl hunfenced)
      exact ⟨record', hafter, fun _ => by rw [hstate]; exact hended hfenced⟩
    · obtain ⟨record', hafter⟩ := (owns_moves ho hi hp).present hrecord
      exact ⟨record', hafter, fun hmem => absurd (hold hmem) hfenced⟩
  · refine ⟨record, (owns_frame ho hp hid).1.trans hget, fun hmem => ?_⟩
    exact hended ((other_owned ho hi hp hid).2 hmem)

/-! ## The process -/

/-- The program owns the record of the Run. -/
def Serves (config : Config) (polite : Prop) (runId : String) (program : Prog Unit) (d : Desk) :
    Prop :=
  ∃ g : Grip, g.Fits runId d ∧ Owned config polite runId g program fun _ _ => True

/-- The reader's cancellation: it owns the record of an inactive Run, or stages. -/
inductive Reads (config : Config) (polite : Prop) (w : World) (runId : String)
    (program : Prog Unit) : Prop
  | owns (inactive : w.workers.get runId = none) (g : Grip) (fits : g.Fits runId w.toDesk)
      (unstarted : g.unstarted = false)
      (owned : Owned config polite runId g program fun _ _ => True)
  | stages (seen : Bool) (saw : seen = true → SeenEnded runId w.toDesk)
      (keeps : Proc.Keeps (staging config runId) (Proc.Ends fun _ _ => True) seen program)

/-- **The invariant of the Bridge.** -/
structure Inv (config : Config) (polite : Prop) (w : World) : Prop where
  sound : w.toDesk.Sound
  workers : ∀ runId worker, w.workers.get runId = some worker →
    Serves config polite runId worker.program w.toDesk
  reader : ∀ runId program, w.reader = some (runId, program) →
    Reads config polite w runId program
  /-- Workers and reader work for a connection only. -/
  quiet : w.phase.serving = false → (∀ runId, w.workers.get runId = none) ∧ w.reader = none
  recovering : ∀ program, w.phase = .recovering program →
    Proc.Keeps (recovering config polite) (Proc.Ends fun d _ => Recovered w.found d) w.toDesk
      program
  recovered : w.phase = .recovered → Recovered w.found w.toDesk

/-- The adapter is polite in this step. -/
def PoliteStep (config : Config) (label : Label) (w : World) : Prop :=
  ∀ op response, label.performed? = some ⟨op, response⟩ → Polite config w.inbox op response

section Inv

variable {config : Config} {polite : Prop} {adapters : List String} {w w' : World} {runId : String}
  {op : Op} {k : op.Resp → Prog Unit} {d : Desk} {response : op.Resp} {i' : Inbox}

theorem owner_step {g : Grip} (hs : d.Sound) (hf : g.Fits runId d)
    (ho : Owned config polite runId g (.call op k) fun _ _ => True)
    (hp : Performs config op d.inbox response i')
    (hpolite : polite → Polite config d.inbox op response) :
    (d.performed op response i').Sound ∧
      ∃ g' : Grip, g'.Fits runId (d.performed op response i') ∧
        (g.unstarted = false → g'.unstarted = false) ∧
        Owned config polite runId g' (k response) fun _ _ => True := by
  have hsound := sound_step hs hf ho.1 hp
  have hfits := fits_step hs hf ho.1 hp
  refine ⟨hsound, _, hfits, fun hu => by simp [Grip.after, hu], ?_⟩
  refine ho.2 response _ ⟨⟨d.inbox, i', hf.record.symm, hp, rfl, hpolite⟩, ?_⟩
  exact fun record hrecord => hsound.wf runId record hrecord

theorem inv_init (h : (bridge config adapters).init w) : Inv config polite w := by
  obtain ⟨hinbox, hphase, hworkers, hreader, hstarted, hfenced⟩ := h
  refine ⟨⟨?_, ?_, ?_, ?_, ?_⟩, ?_, ?_, ?_, ?_, ?_⟩
  · intro id record hget
    rw [hinbox] at hget
    cases hget
  · rw [hstarted]
    exact List.nodup_nil
  · rw [hstarted]
    exact fun _ _ h => by cases h
  · rw [hfenced]
    exact fun _ h => by cases h
  · rw [hfenced]
    exact fun _ h => by cases h
  · intro id worker hget
    rw [hworkers] at hget
    cases hget
  · intro id program hget
    rw [hreader] at hget
    cases hget
  · rw [hworkers, hreader]
    exact fun _ => ⟨fun _ => rfl, rfl⟩
  · intro program hp
    rw [hphase] at hp
    cases hp
  · intro hp
    rw [hphase] at hp
    cases hp

theorem performed_list {response : Op.Resp (.inbox .list)}
    (hp : Performs config (.inbox .list) d.inbox response i') :
    d.performed (.inbox .list) response i' = d := by
  cases hp.effect with
  | nothing => simp [Desk.performed, Op.starts, Op.fences, Op.sends]

theorem Desk.Sound.forget (h : d.Sound) : ({ d with sent := [] } : Desk).Sound :=
  ⟨h.wf, h.once, h.fresh, h.unrun, h.stands⟩

theorem inv_dial (h : Inv config polite w) (hdown : w.phase = .down) :
    Inv config polite { w with
      phase := .recovering (recover config true), sent := [], found := w.inbox } := by
  have hquiet := h.quiet (by rw [hdown]; rfl)
  refine ⟨h.sound.forget, ?_, ?_, fun _ => hquiet, ?_, nofun⟩
  · intro id worker hget
    rw [show _ = none from hquiet.1 id] at hget
    cases hget
  · intro id program hget
    rw [show _ = none from hquiet.2] at hget
    cases hget
  · intro program hp
    cases hp
    exact recovering_recover h.sound.forget

theorem inv_recoveryOp (h : Inv config polite w) (hphase : w.phase = .recovering (.call op k))
    (hp : Performs config op w.inbox response i')
    (hpolite : polite → Polite config w.inbox op response) :
    Inv config polite { w with
      toDesk := w.toDesk.performed op response i', phase := .recovering (k response) } := by
  have hquiet := h.quiet (by rw [hphase]; rfl)
  have hkeeps := h.recovering _ hphase
  have hsound : (w.toDesk.performed op response i').Sound := by
    rcases hkeeps.1 with rfl | ⟨runId, g, hfits, -, ho⟩
    · rw [performed_list hp]
      exact h.sound
    · exact sound_step h.sound hfits ho hp
  refine ⟨hsound, ?_, ?_, fun _ => hquiet, ?_, nofun⟩
  · intro id worker hget
    rw [show _ = none from hquiet.1 id] at hget
    cases hget
  · intro id program hget
    rw [show _ = none from hquiet.2] at hget
    cases hget
  · intro program hprogram
    cases hprogram
    exact hkeeps.2 response _ ⟨⟨i', hp, rfl⟩, hpolite⟩

theorem inv_phase (h : Inv config polite w) {phase : Phase}
    (hquiet : phase.serving = false → (∀ runId, w.workers.get runId = none) ∧ w.reader = none)
    (hrecovering : ∀ program, phase ≠ .recovering program)
    (hrecovered : phase = .recovered → Recovered w.found w.toDesk) :
    Inv config polite { w with phase } := by
  refine ⟨h.sound, h.workers, ?_, hquiet, fun program hp => absurd hp (hrecovering program),
    hrecovered⟩
  intro id program hget
  rcases h.reader id program hget with ⟨hidle, g, hf, hu, ho⟩ | ⟨seen, hsaw, hk⟩
  · exact .owns hidle g hf hu ho
  · exact .stages seen hsaw hk

theorem serving_phase (hserving : w.phase.serving = true) :
    (∀ program, w.phase ≠ .recovering program) ∧ w.phase ≠ .recovered := by
  constructor
  · intro program hp
    rw [hp] at hserving
    cases hserving
  · intro hp
    rw [hp] at hserving
    cases hserving

variable {worker : Worker}

theorem Inv.serving_of_worker (h : Inv config polite w)
    (hactive : w.workers.get runId = some worker) : w.phase.serving = true := by
  by_contra hserving
  have hnone := (h.quiet (by simpa using hserving)).1 runId
  rw [hactive] at hnone
  cases hnone

theorem Inv.serving_of_reader (h : Inv config polite w) {reading : String × Prog Unit}
    (hreading : w.reader = some reading) : w.phase.serving = true := by
  by_contra hserving
  have hnone := (h.quiet (by simpa using hserving)).2
  rw [hreading] at hnone
  cases hnone

theorem inv_serving (hsound : w'.toDesk.Sound) (hserving : w'.phase.serving = true)
    (hworkers : ∀ runId worker, w'.workers.get runId = some worker →
      Serves config polite runId worker.program w'.toDesk)
    (hreader : ∀ runId program, w'.reader = some (runId, program) →
      Reads config polite w' runId program) : Inv config polite w' := by
  obtain ⟨hrecovering, hrecovered⟩ := serving_phase hserving
  refine ⟨hsound, hworkers, hreader, fun hno => ?_,
    fun program hp => absurd hp (hrecovering program), fun hp => absurd hp hrecovered⟩
  rw [hserving] at hno
  cases hno

theorem inv_deliver (h : Inv config polite w) {request : RunRequest} (honline : w.phase = .online)
    (hreading : w.reader = none) :
    Inv config polite { w with
      workers := w.workers.put request.runId
        { request, program := Handler.handle config adapters request } } := by
  refine inv_serving h.sound (by rw [honline]; rfl) ?_ ?_
  · intro id worker hget
    rw [Table.get_put] at hget
    split at hget
    · rename_i hid
      cases hget
      -- the grip knows the Run unstarted where its record says so
      let g : Grip :=
        { record := w.inbox.records.get id, unstarted := decide (id ∉ w.started)
          unfenced := false, sent := [] }
      have hfits : g.Fits id w.toDesk :=
        ⟨rfl, fun hu => by simpa [g] using hu, (by intro h; cases h)⟩
      refine ⟨g, hfits, owned_handle adapters hid.symm fun hpreparing => ?_⟩
      have := h.sound.fresh id hpreparing
      simpa [g] using this
    · exact h.workers id worker hget
  · intro id program hget
    rw [show _ = none from hreading] at hget
    cases hget

theorem inv_workerOp (h : Inv config polite w) (hactive : w.workers.get runId = some worker)
    (hprogram : worker.program = .call op k) (hp : Performs config op w.inbox response i')
    (hpolite : polite → Polite config w.inbox op response) :
    Inv config polite { w with
      toDesk := w.toDesk.performed op response i'
      workers := w.workers.put runId { worker with program := k response } } := by
  obtain ⟨g, hf, ho⟩ := h.workers runId worker hactive
  rw [hprogram] at ho
  obtain ⟨hsound, g', hf', -, ho'⟩ := owner_step h.sound hf ho hp hpolite
  have hi : w.inbox.records.get runId = g.record := hf.record.symm
  refine inv_serving hsound (h.serving_of_worker hactive) ?_ ?_
  · intro id other hget
    rw [Table.get_put] at hget
    split at hget
    · rename_i hid
      subst hid
      cases hget
      exact ⟨g', hf', ho'⟩
    · rename_i hid
      obtain ⟨gother, hfother, hoother⟩ := h.workers id other hget
      exact ⟨gother, fits_frame hfother ho.1 hi hp hid, hoother⟩
  · intro id program hget
    rcases h.reader id program hget with ⟨hidle, greader, hfreader, hu, howned⟩ | ⟨seen, hsaw, hk⟩
    · have hne : id ≠ runId := by
        intro heq
        rw [heq, hactive] at hidle
        cases hidle
      refine .owns ?_ greader (fits_frame hfreader ho.1 hi hp hne) hu howned
      rw [Table.get_put_ne _ _ hne]
      exact hidle
    · exact .stages seen (fun hseen => (hsaw hseen).step hf ho.1 hp) hk

theorem inv_workerEnd (h : Inv config polite w) (hactive : w.workers.get runId = some worker) :
    Inv config polite { w with workers := w.workers.remove runId } := by
  refine inv_serving h.sound (h.serving_of_worker hactive) ?_ ?_
  · intro id other hget
    rw [Table.get_remove] at hget
    split at hget
    · cases hget
    · exact h.workers id other hget
  · intro id program hget
    rcases h.reader id program hget with ⟨hidle, greader, hfreader, hu, howned⟩ | ⟨seen, hsaw, hk⟩
    · refine .owns ?_ greader hfreader hu howned
      rw [Table.get_remove]
      split
      · rfl
      · exact hidle
    · exact .stages seen hsaw hk

theorem inv_cancel (h : Inv config polite w) {requested : RunCancelRequest}
    (honline : w.phase = .online) :
    Inv config polite { w with
      reader := some (requested.runId, cancellationProgram config
        (w.workers.get requested.runId).isSome requested) } := by
  refine inv_serving h.sound (by rw [honline]; rfl) h.workers ?_
  intro id program hget
  cases hget
  rcases hworker : w.workers.get requested.runId with _ | worker
  · exact .owns hworker (w.toDesk.grip requested.runId) (w.toDesk.grip_fits _) rfl
      (owned_replayCanceledRun rfl)
  · exact .stages false nofun (staging_stageCancellation rfl)

theorem inv_readerOp (h : Inv config polite w) (hreading : w.reader = some (runId, .call op k))
    (hp : Performs config op w.inbox response i')
    (hpolite : polite → Polite config w.inbox op response) :
    Inv config polite { w with
      toDesk := w.toDesk.performed op response i', reader := some (runId, k response) } := by
  have hserving := h.serving_of_reader hreading
  rcases h.reader runId _ hreading with ⟨hidle, g, hf, hu, ho⟩ | ⟨seen, hsaw, hk⟩
  · have hi : w.inbox.records.get runId = g.record := hf.record.symm
    obtain ⟨hsound, g', hf', hu', ho'⟩ := owner_step h.sound hf ho hp hpolite
    refine inv_serving hsound hserving ?_ ?_
    · intro id worker hget
      have hne : id ≠ runId := by
        intro heq
        rw [heq, hidle] at hget
        cases hget
      obtain ⟨gother, hfother, hoother⟩ := h.workers id worker hget
      exact ⟨gother, fits_frame hfother ho.1 hi hp hne, hoother⟩
    · intro id program hget
      cases hget
      exact .owns hidle g' hf' (hu' hu) ho'
  · have hsound := staging_sound hk.1 hp h.sound hsaw
    refine inv_serving hsound hserving ?_ ?_
    · intro id worker hget
      obtain ⟨gother, hfother, hoother⟩ := h.workers id worker hget
      exact ⟨gother, staging_fits hk.1 hp hfother, hoother⟩
    · intro id program hget
      cases hget
      refine .stages (seen || op.seesEnded runId response) (staging_seen hk.1 hp hsaw) ?_
      exact hk.2 response _ ⟨rfl, w.inbox, i', hp, fun record hr => h.sound.wf runId record hr⟩

theorem inv_readerEnd (h : Inv config polite w) {phase : Phase} (hserving : phase.serving = true) :
    Inv config polite { w with reader := none, phase } :=
  inv_serving h.sound hserving h.workers nofun

/-- **Every step keeps the invariant.** -/
theorem inv_step {label : Label} (hs : Step config adapters label w w')
    (hpolite : polite → PoliteStep config label w) (h : Inv config polite w) :
    Inv config polite w' := by
  cases hs with
  | dial down => exact inv_dial h down
  | recoveryOp phase performs => exact inv_recoveryOp h phase performs fun hp => hpolite hp _ _ rfl
  | recovered phase =>
    have hquiet := h.quiet (by rw [phase]; rfl)
    exact inv_phase h (fun _ => hquiet) nofun fun _ => h.recovering _ phase () rfl
  | recoveryFailed phase =>
    have hquiet := h.quiet (by rw [phase]; rfl)
    exact inv_phase h (fun _ => hquiet) nofun nofun
  | connect phase => exact inv_phase h nofun nofun nofun
  | deliver online reading inactive => exact inv_deliver h online reading
  | workerOp active program performs =>
    exact inv_workerOp h active program performs fun hp => hpolite hp _ _ rfl
  | workerEnd active ended => exact inv_workerEnd h active
  | cancel online reading same => exact inv_cancel h online
  | readerOp reading performs => exact inv_readerOp h reading performs fun hp => hpolite hp _ _ rfl
  | readerEnd reading => exact inv_readerEnd h (h.serving_of_reader reading)
  | readerFailed reading => exact inv_readerEnd h rfl
  | disconnect online => exact inv_phase h nofun nofun nofun
  | drained phase idle reading =>
    refine inv_phase h (fun _ => ⟨fun id => ?_, reading⟩) nofun nofun
    rw [idle]
    rfl
  | crash =>
    exact ⟨h.sound, nofun, nofun, fun _ => ⟨fun _ => rfl, rfl⟩, nofun, nofun⟩

/-- **The invariant of every run.** -/
theorem inv_reachable (h : (bridge config adapters).Reachable w) : Inv config False w := by
  refine System.invariant (Inv config False) (fun _ hi => inv_init hi) (fun _ _ _ hs hi => ?_) h
  exact inv_step hs False.elim hi

/-- **The invariant of the runs with polite adapters.** -/
theorem inv_polite
    (h : ((bridge config adapters).restrict (PoliteStep config)).Reachable w) :
    Inv config True w := by
  refine System.invariant (Inv config True) (fun _ hi => ?_) (fun _ _ _ hs hi => ?_) h
  · exact @inv_init config True adapters _ hi
  · exact inv_step hs.2 (fun _ => hs.1) hi

end Inv

end AgentRoom.Bridge
