import AgentRoom.Hosted.Agreement

/-!
# The transactions keep the agreement

One lemma a function of the repository. All but `markDispatching` are calm: they leave an
intent where it is or end it. `markDispatching` is calm too, unless it takes the one intent
it is called for from `prepared` to `dispatching`.
-/

namespace AgentRoom.Hosted

open Tx RunRepository HostedInvocationRepository

variable {α : Type} {db db' : HostedDb} {id : RunId}

/-- **Keeps the invariant and dispatches nothing.** -/
def Calmly (x : HDb α) : Prop :=
  ∀ db, HostedInv db → HostedInv (x db).2 ∧ CalmRows db (x db).2

variable {x : HDb α}

theorem calmly_immediate
    (h : ∀ db a db', HostedInv db → x db = (.ok a, db') → HostedInv db' ∧ CalmRows db db') :
    Calmly (immediate x) := by
  intro db hdb
  rcases immediate_cases x db with ⟨e, he⟩ | ⟨a, db', hx, ha⟩
  · rw [he]
    exact ⟨hdb, CalmRows.refl db⟩
  · rw [ha]
    exact h db a db' hdb hx

theorem Calmly.after {r : Except Err α} (hx : Calmly x) (h : HostedInv db) (hr : x db = (r, db')) :
    HostedInv db' ∧ CalmRows db db' := by
  have hafter := hx db h
  rw [hr] at hafter
  exact hafter

/-! ## Reading and writing rows -/

theorem onCentral_apply (x : Db α) (db : HostedDb) :
    onCentral x db = ((x db.central).1, ⟨(x db.central).2, db.invocations⟩) := rfl

theorem getByRun_bind {f : Option HostedInvocationRecord → HDb α} (id : RunId) (db : HostedDb) :
    (getByRun id >>= f) db = f ((db.invocations.get id).map (·.val)) db := rfl

variable {row : HostedInvocationRecord}

theorem require_ok (h : require id db = (.ok row, db')) :
    db' = db ∧ ∃ stored, db.invocations.get id = some stored ∧ row = stored.val := by
  unfold HostedInvocationRepository.require at h
  rw [getByRun_bind] at h
  cases hget : db.invocations.get id with
  | none =>
    rw [hget] at h
    cases h
  | some stored =>
    rw [hget] at h
    cases h
    exact ⟨rfl, stored, rfl, rfl⟩

variable {stored : StoredInvocation}

theorem require_of_get (h : db.invocations.get id = some stored) :
    require id db = (.ok stored.val, db) := by
  unfold HostedInvocationRepository.require
  rw [getByRun_bind, h]
  rfl

variable {run : RunRecord}

theorem requireRun_ok (h : requireRun id db = (.ok run, db')) :
    db' = db ∧ db.central.runs.get id = some run := by
  have hbind : ∀ f : Option RunRecord → HDb RunRecord,
      (onCentral (getRun id) >>= f) db = f (db.central.runs.get id) db := fun _ => rfl
  unfold requireRun at h
  rw [hbind] at h
  cases hget : db.central.runs.get id with
  | none =>
    rw [hget] at h
    cases h
  | some found =>
    rw [hget] at h
    cases h
    exact ⟨rfl, rfl⟩

theorem requireRun_of_get (h : db.central.runs.get id = some run) :
    requireRun id db = (.ok run, db) := by
  have hbind : ∀ f : Option RunRecord → HDb RunRecord,
      (onCentral (getRun id) >>= f) db = f (db.central.runs.get id) db := fun _ => rfl
  unfold requireRun
  rw [hbind, h]
  rfl

theorem store_ok {u : Unit} (h : store id row db = (.ok u, db')) :
    ∃ hv : row.valid = true, db' = ⟨db.central, db.invocations.put id ⟨row, hv⟩⟩ := by
  unfold store at h
  split at h
  · next hv =>
      cases h
      exact ⟨hv, rfl⟩
  · cases h

theorem store_of_valid (hv : row.valid = true) :
    store id row db = (.ok (), ⟨db.central, db.invocations.put id ⟨row, hv⟩⟩) := by
  unfold store
  rw [dif_pos hv]
  rfl

/-- What an update of the state column did. -/
inductive Updated (id : RunId) (selects : HostedInvocationRecord → Bool)
    (next : HostedInvocationRecord → HostedInvocationRecord) (db : HostedDb) :
    Bool → HostedDb → Prop
  | missed (h : ∀ stored, db.invocations.get id = some stored → selects stored.val = false) :
      Updated id selects next db false db
  | changed {stored : StoredInvocation} (hv : (next stored.val).valid = true)
      (get : db.invocations.get id = some stored) (selected : selects stored.val = true)
      (legal : legalTransition stored.val.state (next stored.val).state = true)
      (onTime : stored.val.updatedAt ≤ (next stored.val).updatedAt) :
      Updated id selects next db true
        ⟨db.central, db.invocations.put id ⟨next stored.val, hv⟩⟩

variable {selects : HostedInvocationRecord → Bool}
  {next : HostedInvocationRecord → HostedInvocationRecord}

theorem updateState_ok {changed : Bool} (h : updateState id selects next db = (.ok changed, db')) :
    Updated id selects next db changed db' := by
  unfold updateState at h
  rw [getByRun_bind] at h
  cases hget : db.invocations.get id with
  | none =>
    rw [hget] at h
    cases h
    exact .missed fun stored hs => by rw [hget] at hs; cases hs
  | some stored =>
    rw [hget] at h
    dsimp only [Option.map] at h
    split at h
    · next hsel =>
        cases h
        refine .missed fun stored' hs => ?_
        obtain rfl := Option.mem_unique hget hs
        exact hsel
    · next hsel =>
        split at h
        · cases h
        · next hguard =>
            obtain ⟨u, db₁, hstore, hend⟩ := ok_of_bind h
            obtain ⟨hv, rfl⟩ := store_ok hstore
            cases hend
            simp only [not_or, not_lt, Bool.not_eq_false] at hguard hsel
            exact .changed hv hget hsel hguard.2 hguard.1

/-- An update whose guards hold changes the row. -/
theorem updateState_of_get (hget : db.invocations.get id = some stored)
    (hsel : selects stored.val = true)
    (hlegal : legalTransition stored.val.state (next stored.val).state = true)
    (htime : stored.val.updatedAt ≤ (next stored.val).updatedAt)
    (hv : (next stored.val).valid = true) :
    updateState id selects next db =
      (.ok true, ⟨db.central, db.invocations.put id ⟨next stored.val, hv⟩⟩) := by
  have hguard : ¬((next stored.val).updatedAt < stored.val.updatedAt ∨
      legalTransition stored.val.state (next stored.val).state = false) := by
    rw [hlegal]
    rintro (h | h)
    · exact absurd h (Nat.not_lt.mpr htime)
    · cases h
  unfold updateState
  rw [getByRun_bind, hget]
  dsimp only [Option.map]
  rw [hsel, if_neg (by decide), if_neg hguard, bind_ok (store_of_valid hv)]
  rfl

theorem stateOf_of_get (h : db.invocations.get id = some stored) :
    stateOf db id = some stored.val.state := by
  unfold stateOf
  rw [h]
  rfl

theorem calm_of_legal {s s' : HostedInvocationState} (h : legalTransition s s' = true)
    (hd : s' ≠ .dispatching) : calm (some s) (some s') = true := by
  simp [calm, h, hd]

/-! ## Run events -/

/-- An event that ends the Run it is applied to, or reports on a dispatched one. -/
def MayApply (db : HostedDb) (id : RunId) (event : RuntimeEvent) : Prop :=
  (∀ s, event.nextState s = s ∨ (event.nextState s).terminal = true) ∨
    ∃ row, db.invocations.get id = some row ∧ row.val.state ≠ .prepared

variable {event : RuntimeEvent}

theorem applyEvent_calm (now : Time) (h : HostedInv db) (hmay : MayApply db id event) :
    HostedInv (onCentral (applyEvent id event now) db).2 ∧
      CalmRows db (onCentral (applyEvent id event now) db).2 := by
  rw [onCentral_apply]
  refine ⟨?_, fun _ => calm_refl _⟩
  refine h.writeRun (applyEvent_write id event now db.central)
    (fun s s' hs hq => by rw [hs]; exact nextState_ne_queued event hq) ?_
  rcases hmay with hends | hpast
  · exact .inl fun s s' hs => by rw [hs]; exact hends s
  · exact .inr hpast

variable {now : Time}

theorem applyEvent_after {r : Except Err AppliedRunEvent} (h : HostedInv db)
    (hmay : MayApply db id event) (hr : onCentral (applyEvent id event now) db = (r, db')) :
    HostedInv db' ∧ CalmRows db db' := by
  have hafter := applyEvent_calm now h hmay
  rw [hr] at hafter
  exact hafter

theorem applyReplyAndTerminal_calm {event : ReplyEvent} {terminalSequence : Nat} (now : Time)
    (h : HostedInv db) :
    HostedInv (onCentral (applyReplyAndTerminal id event terminalSequence now) db).2 ∧
      CalmRows db (onCentral (applyReplyAndTerminal id event terminalSequence now) db).2 := by
  rw [onCentral_apply]
  refine ⟨?_, fun _ => calm_refl _⟩
  refine h.writeRun (applyReplyAndTerminal_write id event terminalSequence now db.central) ?_ ?_
  · rintro s s' (rfl | rfl) hq
    · exact hq
    · exact nofun
  · left
    rintro s s' (rfl | rfl)
    · exact .inl rfl
    · exact .inr rfl

/-! ## The repository -/

variable (services : HostedServices)

theorem isHosted_of_insertAllowed {db : Central} {input : PrepareInput}
    (h : insertAllowed services db input = true) :
    ∃ run, db.runs.get input.runId = some run ∧ isHosted db run.targetAgentId = true := by
  unfold insertAllowed at h
  cases hget : db.runs.get input.runId with
  | none => simp [hget] at h
  | some run =>
    simp only [hget, Option.any_some, Bool.and_eq_true, decide_eq_true_eq] at h
    exact ⟨run, rfl, by rw [h.1.1.1]; exact h.1.1.2⟩

theorem prepare_calm (input : PrepareInput) : Calmly (prepare services input) := by
  refine calmly_immediate fun db row db' h hx => ?_
  rw [getByRun_bind] at hx
  cases hget : db.invocations.get input.runId with
  | some stored =>
    rw [hget] at hx
    dsimp only [Option.map] at hx
    split at hx
    · cases hx
      exact ⟨h, CalmRows.refl db⟩
    · cases hx
  | none =>
    rw [hget] at hx
    dsimp only [Option.map] at hx
    obtain ⟨invocationId, db₁, hid, hrest⟩ := ok_of_bind hx
    rw [onCentral_apply] at hid
    cases hid
    rw [get_bind] at hrest
    split at hrest
    · next hallowed =>
        obtain ⟨u, db₂, hstore, hend⟩ := ok_of_bind hrest
        obtain ⟨hv, rfl⟩ := store_ok hstore
        obtain ⟨rfl, -⟩ := require_ok hend
        obtain ⟨run, hrun, hhosted⟩ := isHosted_of_insertAllowed services hallowed
        have hw : RunWrite input.runId (fun s s' => s' = s) db.central
            (createOpaqueId db.central).2 :=
          .of_side (SideOnly.of_along (createOpaqueId_side db.central)) rfl
        refine ⟨h.write hw (fun s s' hs hq => by rw [hs]; exact hq)
          (fun id' hne => Table.get_put_ne _ _ hne) (fun row hrow => ?_) ?_, CalmRows.put ?_⟩
        · rw [Table.get_put_self] at hrow
          obtain rfl := Option.some.inj hrow
          exact ⟨rfl, run, hrun, hhosted, nofun, nofun⟩
        · -- a started Run has an intent already
          intro run' hrun' hhosted' hnq hlive
          obtain ⟨row, hrow, -⟩ := h.waiting input.runId run' hrun' hhosted' hnq hlive
          rw [hget] at hrow
          cases hrow
        · unfold stateOf
          rw [hget]
          rfl
    · cases hrest

theorem markStreaming_calm (id : RunId) (now : Time) : Calmly (markStreaming id now) := by
  refine calmly_immediate fun db row db' h hx₀ => ?_
  obtain ⟨invocation, db₁, hreq, hx⟩ := ok_of_bind hx₀
  obtain ⟨rfl, stored, hget, rfl⟩ := require_ok hreq
  clear hx₀
  split at hx
  · cases hx
    exact ⟨h, CalmRows.refl _⟩
  split at hx
  · cases hx
  obtain ⟨changed, db₂, hupdate, hend⟩ := ok_of_bind hx
  obtain ⟨rfl, -⟩ := require_ok hend
  cases updateState_ok hupdate with
  | missed _ => exact ⟨h, CalmRows.refl _⟩
  | changed hv hget selected legal onTime =>
    refine ⟨h.writeRow hget rfl (fun _ => nofun) fun run hrun hagrees => ?_,
      CalmRows.put ?_⟩
    · exact ⟨hagrees.started, nofun⟩
    · rw [stateOf_of_get hget]
      exact calm_of_legal legal nofun

theorem requestCancellation_calm (id : RunId) (memberId : MemberId) (reason : String)
    (now : Time) : Calmly (requestCancellation services id memberId reason now) := by
  refine calmly_immediate fun db row db' h hx => ?_
  rw [getByRun_bind] at hx
  cases hget : db.invocations.get id with
  | none =>
    rw [hget] at hx
    cases hx
    exact ⟨h, CalmRows.refl db⟩
  | some stored =>
    rw [hget] at hx
    dsimp only [Option.map] at hx
    split at hx
    · cases hx
      exact ⟨h, CalmRows.refl db⟩
    split at hx
    · cases hx
      exact ⟨h, CalmRows.refl db⟩
    rw [get_bind] at hx
    split at hx
    · obtain ⟨u, db₁, hstore, hend⟩ := ok_of_bind hx
      obtain ⟨hv, rfl⟩ := store_ok hstore
      cases hend
      refine ⟨h.writeRow hget rfl (fun hp => hp) fun run hrun hagrees => ?_, CalmRows.put ?_⟩
      · exact ⟨hagrees.started, hagrees.settled⟩
      · rw [stateOf_of_get hget]
        exact calm_refl _
    · cases hx

/-- A row settled as `settleFromRun` settles it shows the outcome of its Run. -/
theorem settledState_eq (hv : row.valid = true) (hlive : row.state.terminal = false)
    (run : RunState) (code : Option String) (now : Time) :
    settledState row.state run =
      outcomeOf (row.ended (settledState row.state run) code now) run := by
  have hdispatched : row.dispatchedAt.isSome = true ↔ row.state ≠ .prepared := by
    constructor
    · intro hd hp
      rw [undispatched_of_prepared hv hp] at hd
      cases hd
    · intro hp
      refine dispatched_of_valid hv ?_
      cases hs : row.state <;> rw [hs] at hp hlive <;> simp_all [HostedInvocationState.terminal]
  unfold outcomeOf settledState
  show (if run = .canceled ∧ row.state ≠ .prepared then _ else _) =
    if run = .canceled ∧ row.dispatchedAt.isSome = true then _ else _
  simp only [hdispatched]

theorem settleFromRun_calm (id : RunId) (failureCode : String) (now : Time) :
    Calmly (settleFromRun id failureCode now) := by
  refine calmly_immediate fun db row db' h hx₀ => ?_
  obtain ⟨invocation, db₁, hreq, hx⟩ := ok_of_bind hx₀
  obtain ⟨rfl, stored, hget, rfl⟩ := require_ok hreq
  clear hx₀
  split at hx
  · cases hx
    exact ⟨h, CalmRows.refl _⟩
  next hlive =>
  obtain ⟨run, db₂, hreqRun, hy⟩ := ok_of_bind hx
  obtain ⟨rfl, hrun⟩ := requireRun_ok hreqRun
  clear hx
  split at hy
  · cases hy
  next hended =>
  obtain ⟨changed, db₃, hupdate, hend⟩ := ok_of_bind hy
  obtain ⟨rfl, -⟩ := require_ok hend
  cases updateState_ok hupdate with
  | missed _ => exact ⟨h, CalmRows.refl _⟩
  | @changed found hv hget' selected legal onTime =>
    obtain rfl := Option.mem_unique hget hget'
    have hsettled : settledState stored.val.state run.state ≠ .dispatching := by
      unfold settledState invocationState
      split
      · exact nofun
      · split <;> exact nofun
    have hpast : settledState stored.val.state run.state ≠ .prepared := by
      unfold settledState invocationState
      split
      · exact nofun
      · split <;> exact nofun
    refine ⟨h.writeRow hget rfl (fun _ => hpast) fun run' hrun' hagrees => ?_, CalmRows.put ?_⟩
    · obtain rfl := Option.mem_unique hrun hrun'
      refine ⟨hagrees.started, fun _ => ⟨by simpa using hended, ?_⟩⟩
      exact settledState_eq stored.2 (by simpa using hlive) run.state _ now
    · rw [stateOf_of_get hget]
      exact calm_of_legal legal hsettled

/-- `requestCancellation` of an unsettled intent records the request and nothing else. -/
theorem requestCancellation_ok {memberId : MemberId} {reason : String}
    {r : Option HostedInvocationRecord} (hget : db.invocations.get id = some stored)
    (hlive : stored.val.state.terminal = false)
    (h : requestCancellation services id memberId reason now db = (.ok r, db')) :
    db'.central = db.central ∧ ∃ stored', db'.invocations.get id = some stored' ∧
      stored'.val.state = stored.val.state ∧ stored'.val.cancellation.isSome = true := by
  have hx := ok_of_immediate h
  rw [getByRun_bind, hget] at hx
  dsimp only [Option.map] at hx
  rw [hlive, if_neg (by decide)] at hx
  split at hx
  · next hrequested =>
      cases hx
      exact ⟨rfl, stored, hget, rfl, hrequested⟩
  rw [get_bind] at hx
  split at hx
  · obtain ⟨u, db₁, hstore, hend⟩ := ok_of_bind hx
    obtain ⟨hv, rfl⟩ := store_ok hstore
    cases hend
    exact ⟨rfl, _, Table.get_put_self _ _ _, rfl, rfl⟩
  · cases hx

theorem applyEvent_ends {event : StatusEvent} {r : AppliedRunEvent}
    (hget : db.central.runs.get id = some run) (hlive : run.state.terminal = false)
    (hnext : event.sequence = run.lastSequence + 1) (hasks : event.clarification = none)
    (hsession : event.session = none)
    (h : onCentral (applyEvent id (.status event) now) db = (.ok r, db')) :
    ∃ c, Appended id run (.status event) now db.central c ∧ c.agents = db.central.agents ∧
      db' = ⟨c, db.invocations⟩ ∧ r.run = run.advanced (.status event) now := by
  obtain ⟨c, happ, hagents, hc⟩ := applyEvent_plain now hget hlive hnext hasks hsession
  rw [onCentral_apply, hc] at h
  cases h
  exact ⟨c, happ, hagents, rfl, rfl⟩

/-- Ending a live Run does not fail. -/
theorem endRun_returns (now : Time) (status : RuntimeStatus) (code message : String)
    (hget : db.central.runs.get id = some run) (hlive : run.state.terminal = false) :
    ∃ r c, onCentral (applyEvent id
      (statusEvent (run.lastSequence + 1) status code message) now) db =
        (.ok r, ⟨c, db.invocations⟩) ∧
      r.run = run.advanced (statusEvent (run.lastSequence + 1) status code message) now ∧
      c.runs = db.central.runs.put id
        (run.advanced (statusEvent (run.lastSequence + 1) status code message) now) := by
  obtain ⟨c, happ, -, hc⟩ : ∃ c, Appended id run
      (statusEvent (run.lastSequence + 1) status code message) now db.central c ∧
      c.agents = db.central.agents ∧ applyEvent id
        (statusEvent (run.lastSequence + 1) status code message) now db.central = (.ok _, c) :=
    applyEvent_plain now hget hlive rfl rfl rfl
  rw [onCentral_apply, hc]
  exact ⟨_, c, rfl, rfl, happ.runs⟩

theorem cancelPrepared_calm (id : RunId) (memberId : MemberId) (reason : String) (now : Time) :
    Calmly (cancelPrepared services id memberId reason now) := by
  refine calmly_immediate fun db run db' h hx₀ => ?_
  obtain ⟨invocation, db₁, hreq, hx⟩ := ok_of_bind hx₀
  obtain ⟨rfl, stored, hget, rfl⟩ := require_ok hreq
  clear hx₀
  obtain ⟨run, db₂, hreqRun, hy⟩ := ok_of_bind hx
  obtain ⟨rfl, hrun⟩ := requireRun_ok hreqRun
  clear hx
  split at hy
  · cases hy
  next hprepared =>
  split at hy
  · cases hy
  next hqueued =>
  have hprepared : stored.val.state = .prepared := by simpa using hprepared
  have hqueued : run.state = .queued := by simpa using hqueued
  obtain ⟨r, db₃, hcancel, hz⟩ := ok_of_bind hy
  -- the request, the end of the Run, then the end of the row
  have hcalm := (requestCancellation_calm services id memberId reason now).after h hcancel
  obtain ⟨hcentral, stored', hget', hstate', -⟩ :=
    requestCancellation_ok services hget (by rw [hprepared]; rfl) hcancel
  obtain ⟨canceled, db₄, hevent, hw⟩ := ok_of_bind hz
  have hrun₃ : db₃.central.runs.get id = some run := by rw [hcentral]; exact hrun
  obtain ⟨c, happ, hagents, rfl, -⟩ :=
    applyEvent_ends hrun₃ (by rw [hqueued]; rfl) rfl rfl rfl hevent
  obtain ⟨changed, db₅, hupdate, hend⟩ := ok_of_bind hw
  cases hend
  have hinv := applyEvent_after hcalm.1 (.inl fun _ => .inr rfl) hevent
  cases updateState_ok hupdate with
  | missed _ => exact ⟨hinv.1, hcalm.2.trans hinv.2⟩
  | @changed found hv hget₄ selected legal onTime =>
    obtain rfl := Option.mem_unique hget' hget₄
    refine ⟨hinv.1.writeRow hget₄ rfl (fun _ => nofun) fun run' hrun' hagrees => ?_,
      (hcalm.2.trans hinv.2).trans (CalmRows.put ?_)⟩
    · refine ⟨hagrees.started, fun _ => ?_⟩
      rw [happ.runs, Table.get_put_self] at hrun'
      obtain rfl := Option.some.inj hrun'
      have hundispatched := undispatched_of_prepared stored'.2 (hstate'.trans hprepared)
      exact ⟨rfl, (outcomeOf_undispatched hundispatched .canceled).symm⟩
    · rw [stateOf_of_get hget₄]
      exact calm_of_legal legal nofun

/-- What `markDispatching` did, when it returned. -/
structure Fenced (id : RunId) (db db' : HostedDb) (row : HostedInvocationRecord) : Prop where
  inv : HostedInv db'
  row : ∃ stored, db'.invocations.get id = some stored ∧ row = stored.val
  crossed : CalmRows db db' ∨
    (stateOf db id = some .prepared ∧ stateOf db' id = some .dispatching ∧
      ∀ id', id' ≠ id → stateOf db' id' = stateOf db id')

theorem markDispatching_fenced (h : HostedInv db)
    (hx : markDispatching id now db = (.ok row, db')) :
    Fenced id db db' row := by
  have hx₀ := ok_of_immediate hx
  clear hx
  obtain ⟨invocation, db₁, hreq, hx⟩ := ok_of_bind hx₀
  obtain ⟨rfl, stored, hget, rfl⟩ := require_ok hreq
  clear hx₀
  split at hx
  · cases hx
    exact ⟨h, ⟨stored, hget, rfl⟩, .inl (CalmRows.refl _)⟩
  next hprepared =>
  have hprepared : stored.val.state = .prepared := by simpa using hprepared
  have hundispatched := undispatched_of_prepared stored.2 hprepared
  obtain ⟨run, db₂, hreqRun, hy⟩ := ok_of_bind hx
  obtain ⟨rfl, hrun⟩ := requireRun_ok hreqRun
  clear hx
  split at hy
  · cases hy
  next hqueued =>
  have hqueued : run.state = .queued := by simpa using hqueued
  have hlive : run.state.terminal = false := by rw [hqueued]; rfl
  split at hy
  · -- the deadline passed in the queue
    obtain ⟨expired, db₃, hevent, hz⟩ := ok_of_bind hy
    obtain ⟨c, happ, hagents, rfl, -⟩ := applyEvent_ends hrun hlive rfl rfl rfl hevent
    have hinv := applyEvent_after h (.inl fun _ => .inr rfl) hevent
    obtain ⟨changed, db₄, hupdate, hend⟩ := ok_of_bind hz
    obtain ⟨rfl, hrow⟩ := require_ok hend
    cases updateState_ok hupdate with
    | missed _ => exact ⟨hinv.1, hrow, .inl hinv.2⟩
    | @changed found hv hget' selected legal onTime =>
      obtain rfl := Option.mem_unique hget hget'
      refine ⟨hinv.1.writeRow hget' rfl (fun _ => nofun) fun run' hrun' hagrees => ?_, hrow,
        .inl (hinv.2.trans (CalmRows.put ?_))⟩
      · refine ⟨hagrees.started, fun _ => ?_⟩
        rw [happ.runs, Table.get_put_self] at hrun'
        obtain rfl := Option.some.inj hrun'
        exact ⟨rfl, (outcomeOf_undispatched hundispatched .expired).symm⟩
      · rw [stateOf_of_get hget']
        exact calm_of_legal legal nofun
  · obtain ⟨changed, db₃, hupdate, hz⟩ := ok_of_bind hy
    cases updateState_ok hupdate with
    | missed _ => cases hz
    | @changed found hv hget' selected legal onTime =>
      obtain rfl := Option.mem_unique hget hget'
      rw [if_pos rfl] at hz
      obtain ⟨delivered, db₄, hevent, hend⟩ := ok_of_bind hz
      obtain ⟨rfl, hrow⟩ := require_ok hend
      have hrun' : (HostedDb.mk db₂.central (db₂.invocations.put id ⟨_, hv⟩)).central.runs.get id =
        some run := hrun
      obtain ⟨c, happ, hagents, rfl, -⟩ := applyEvent_ends hrun' hlive rfl rfl rfl hevent
      obtain ⟨hkey, run₀, hrun₀, hhosted, -⟩ := h.row id stored hget
      obtain rfl := Option.mem_unique hrun hrun₀
      refine ⟨?_, hrow, .inr ⟨?_, ?_, fun id' hne => ?_⟩⟩
      · refine h.write (runWrite_of_appended happ hagents)
          (fun s s' hs hq => by rw [hs]; exact nextState_ne_queued _ hq)
          (fun id' hne => Table.get_put_ne _ _ hne) (fun row hget₄ => ?_)
          fun run' hrun' hhosted' hnq hl => ⟨_, Table.get_put_self _ _ _, nofun⟩
        rw [Table.get_put_self] at hget₄
        obtain rfl := Option.some.inj hget₄
        let event : StatusEvent := { sequence := run.lastSequence + 1, status := .delivered }
        refine ⟨hkey, run.advanced (.status event) now, by rw [happ.runs, Table.get_put_self],
          hhosted, fun _ => ⟨?_, ?_⟩, nofun⟩
        · show RunState.delivered ≠ .queued
          decide
        refine ⟨_, by rw [happ.log]; exact List.mem_append_right _ (List.mem_singleton_self _),
          hkey.symm, event, rfl, rfl⟩
      · rw [stateOf_of_get hget, hprepared]
      · unfold stateOf
        rw [Table.get_put_self]
        rfl
      · unfold stateOf
        rw [Table.get_put_ne _ _ hne]

end AgentRoom.Hosted
