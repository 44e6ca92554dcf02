import AgentRoom.Hosted.Transactions

/-!
# What a restart leaves

`recover` walks over the intents that have not ended. Each pass touches one Run and its
intent, and leaves that intent ended, or prepared for a Run that still waits in the queue.
So when the walk returns, nothing is under way: no intent past its fence is unsettled and
no Hosted Agent's Run is started.
-/

namespace AgentRoom.Hosted

open Tx RunRepository HostedInvocationRepository

variable {α : Type} {db db' : HostedDb} {id : RunId} {now : Time}

/-- Nothing changes but one Run and its intent. -/
structure OnlyAt (id : RunId) (db db' : HostedDb) : Prop where
  runs : ∀ id', id' ≠ id → db'.central.runs.get id' = db.central.runs.get id'
  rows : ∀ id', id' ≠ id → db'.invocations.get id' = db.invocations.get id'

namespace OnlyAt

theorem refl (db : HostedDb) : OnlyAt id db db := ⟨fun _ _ => rfl, fun _ _ => rfl⟩

theorem trans {a b c : HostedDb} (h₁ : OnlyAt id a b) (h₂ : OnlyAt id b c) : OnlyAt id a c :=
  ⟨fun id' hne => (h₂.runs id' hne).trans (h₁.runs id' hne),
    fun id' hne => (h₂.rows id' hne).trans (h₁.rows id' hne)⟩

variable {x : HDb α}

theorem of_along (h : Along (OnlyAt id) x db) : OnlyAt id db (x db).2 :=
  h.related refl (fun _ _ _ => trans) fun _ _ h => h

theorem after {r : Except Err α} (h : Along (OnlyAt id) x db) (hr : x db = (r, db')) :
    OnlyAt id db db' := by
  have hafter := of_along h
  rw [hr] at hafter
  exact hafter

end OnlyAt

/-! ## Programs that stay at one Run -/

theorem getByRun_only (key : RunId) (db : HostedDb) : Along (OnlyAt id) (getByRun key) db := .refl

theorem require_only (key : RunId) (db : HostedDb) : Along (OnlyAt id) (require key) db := by
  refine along_bind (getByRun_only key db) fun found db₁ _ => ?_
  cases found with
  | none => exact along_throw _
  | some invocation => exact along_pure _

theorem requireRun_only (key : RunId) (db : HostedDb) :
    Along (OnlyAt id) (requireRun key) db := by
  have hread : Along (OnlyAt id) (onCentral (getRun key)) db := .refl
  refine along_bind hread fun found db₁ _ => ?_
  cases found with
  | none => exact along_throw _
  | some run => exact along_pure _

theorem store_only (row : HostedInvocationRecord) (db : HostedDb) :
    Along (OnlyAt id) (store id row) db := by
  unfold store
  split
  · exact along_modify ⟨fun _ _ => rfl, fun id' hne => Table.get_put_ne _ _ hne⟩
  · exact along_throw _

theorem updateState_only (selects : HostedInvocationRecord → Bool)
    (next : HostedInvocationRecord → HostedInvocationRecord) (db : HostedDb) :
    Along (OnlyAt id) (updateState id selects next) db := by
  refine along_bind (getByRun_only id db) fun found db₁ _ => ?_
  cases found with
  | none => exact along_pure _
  | some row =>
    dsimp only
    split
    · exact along_pure _
    · split
      · exact along_throw _
      · exact along_bind (store_only _ _) fun _ _ _ => along_pure _

theorem applyEvent_only (event : RuntimeEvent) (now : Time) (db : HostedDb) :
    Along (OnlyAt id) (onCentral (applyEvent id event now)) db := by
  have hw := applyEvent_write id event now db.central
  exact .single ⟨hw.other, fun _ _ => rfl⟩

theorem settleFromRun_only (failureCode : String) (now : Time) (db : HostedDb) :
    Along (OnlyAt id) (settleFromRun id failureCode now) db := by
  refine along_immediate (along_bind (require_only id db) fun invocation db₁ _ => ?_)
  split
  · exact along_pure _
  refine along_bind (requireRun_only id db₁) fun run db₂ _ => ?_
  split
  · exact along_throw _
  exact along_bind (updateState_only _ _ _) fun _ _ _ => require_only _ _

variable (services : HostedServices)

theorem requestCancellation_only (memberId : MemberId) (reason : String) (now : Time)
    (db : HostedDb) :
    Along (OnlyAt id) (requestCancellation services id memberId reason now) db := by
  refine along_immediate (along_bind (getByRun_only id db) fun found db₁ _ => ?_)
  cases found with
  | none => exact along_pure _
  | some invocation =>
    dsimp only
    split
    · exact along_pure _
    split
    · exact along_pure _
    refine along_bind_get ?_
    split
    · exact along_bind (store_only _ _) fun _ _ _ => getByRun_only _ _
    · exact along_throw _

theorem cancelPrepared_only (memberId : MemberId) (reason : String) (now : Time)
    (db : HostedDb) :
    Along (OnlyAt id) (cancelPrepared services id memberId reason now) db := by
  refine along_immediate (along_bind (require_only id db) fun invocation db₁ _ => ?_)
  refine along_bind (requireRun_only id db₁) fun run db₂ _ => ?_
  split
  · exact along_throw _
  split
  · exact along_throw _
  refine along_bind (requestCancellation_only services _ _ _ _) fun _ db₃ _ => ?_
  refine along_bind (applyEvent_only _ _ _) fun canceled db₄ _ => ?_
  exact along_bind (updateState_only _ _ _) fun _ _ _ => along_pure _

/-! ## What a pass leaves -/

/-- The intent has ended, or waits with its Run for the first dispatch. -/
def AtRest (db : HostedDb) (id : RunId) : Prop :=
  ∀ stored, db.invocations.get id = some stored → stored.val.state.terminal = true ∨
    (stored.val.state = .prepared ∧ ∃ run, db.central.runs.get id = some run ∧ run.state = .queued)

variable {row : HostedInvocationRecord} {failureCode : String}

theorem settleFromRun_rests (hx : settleFromRun id failureCode now db = (.ok row, db')) :
    AtRest db' id := by
  have hx₀ := ok_of_immediate hx
  clear hx
  obtain ⟨invocation, db₁, hreq, hx⟩ := ok_of_bind hx₀
  obtain ⟨rfl, stored, hget, rfl⟩ := require_ok hreq
  clear hx₀
  split at hx
  · next hended =>
      cases hx
      intro stored' hget'
      obtain rfl := Option.mem_unique hget hget'
      exact .inl hended
  next hlive =>
  obtain ⟨run, db₂, hreqRun, hy⟩ := ok_of_bind hx
  obtain ⟨rfl, hrun⟩ := requireRun_ok hreqRun
  clear hx
  split at hy
  · cases hy
  obtain ⟨changed, db₃, hupdate, hend⟩ := ok_of_bind hy
  obtain ⟨rfl, -⟩ := require_ok hend
  cases updateState_ok hupdate with
  | missed hmissed =>
    have hselected := hmissed stored hget
    simp only [Bool.not_eq_false'] at hselected
    exact absurd hselected hlive
  | changed hv hget' selected legal onTime =>
    intro stored' hget₃
    rw [Table.get_put_self] at hget₃
    obtain rfl := Option.some.inj hget₃
    left
    show (settledState _ _).terminal = true
    unfold settledState invocationState
    split
    · rfl
    · split <;> rfl

variable {run : RunRecord} {memberId : MemberId} {reason : String}

theorem cancelPrepared_rests
    (hx : cancelPrepared services id memberId reason now db = (.ok run, db')) : AtRest db' id := by
  have hx₀ := ok_of_immediate hx
  clear hx
  obtain ⟨invocation, db₁, hreq, hx⟩ := ok_of_bind hx₀
  obtain ⟨rfl, stored, hget, rfl⟩ := require_ok hreq
  clear hx₀
  obtain ⟨run₀, db₂, hreqRun, hy⟩ := ok_of_bind hx
  obtain ⟨rfl, hrun⟩ := requireRun_ok hreqRun
  clear hx
  split at hy
  · cases hy
  next hprepared =>
  split at hy
  · cases hy
  have hprepared : stored.val.state = .prepared := by simpa using hprepared
  obtain ⟨r, db₃, hcancel, hz⟩ := ok_of_bind hy
  obtain ⟨hcentral, stored', hget', hstate', hrequested⟩ :=
    requestCancellation_ok services hget (by rw [hprepared]; rfl) hcancel
  obtain ⟨canceled, db₄, hevent, hw⟩ := ok_of_bind hz
  have hrows : db₄.invocations = db₃.invocations :=
    (congrArg (fun r => r.2.invocations) hevent).symm
  obtain ⟨changed, db₅, hupdate, hend⟩ := ok_of_bind hw
  cases hend
  cases updateState_ok hupdate with
  | missed hmissed =>
    have hselected := hmissed stored' (by rw [hrows]; exact hget')
    rw [hstate', hprepared, hrequested] at hselected
    cases hselected
  | changed hv hget₄ selected legal onTime =>
    intro stored₅ hget₅
    rw [Table.get_put_self] at hget₅
    obtain rfl := Option.some.inj hget₅
    exact .inl rfl

/-- What one pass of the loop did. -/
structure Passed (id : RunId) (db db' : HostedDb) : Prop where
  inv : HostedInv db'
  calm : CalmRows db db'
  only : OnlyAt id db db'
  rests : AtRest db' id

variable {stored : StoredInvocation} {r : RunId × Recovered}

theorem recoverInvocation_passed (h : HostedInv db) (hget : db.invocations.get id = some stored)
    (hx : recoverInvocation services now stored.val db = (.ok r, db')) : Passed id db db' := by
  obtain ⟨hkey, run, hrun, hhosted, -⟩ := h.row id stored hget
  have hrunId := h.keyed id run hrun
  have hread : ∀ {β : Type} (f : Option RunRecord → HDb β),
      (onCentral (getRun id) >>= f) db = f (db.central.runs.get id) db := fun _ => rfl
  unfold recoverInvocation at hx
  rw [hkey, hread, hrun] at hx
  dsimp only at hx
  rw [hrunId] at hx
  split at hx
  · obtain ⟨row, db₁, hsettle, hend⟩ := ok_of_bind hx
    cases hend
    have hcalm := (settleFromRun_calm id (recoveryCode run.state) now).after h hsettle
    exact ⟨hcalm.1, hcalm.2, OnlyAt.after (settleFromRun_only _ _ _) hsettle,
      settleFromRun_rests hsettle⟩
  next hlive =>
  cases hrequest : preparedCancellation stored.val with
  | some request =>
    rw [hrequest] at hx
    obtain ⟨canceled, db₁, hcancel, hend⟩ := ok_of_bind hx
    cases hend
    have hcalm := (cancelPrepared_calm services id _ _ now).after h hcancel
    exact ⟨hcalm.1, hcalm.2, OnlyAt.after (cancelPrepared_only services _ _ _ _) hcancel,
      cancelPrepared_rests services hcancel⟩
  | none =>
  rw [hrequest] at hx
  dsimp only at hx
  split at hx
  · next hwaits =>
      cases hx
      refine ⟨h, CalmRows.refl _, OnlyAt.refl _, fun stored' hget' => ?_⟩
      obtain rfl := Option.mem_unique hget hget'
      exact .inr ⟨hwaits.1, run, hrun, hwaits.2⟩
  next hwaits =>
  obtain ⟨unknown, db₁, hevent, hy⟩ := ok_of_bind hx
  split at hy
  · -- a started Run has left `prepared` behind
    next hprepared =>
    exfalso
    have hnq : run.state ≠ .queued := fun hq => hwaits ⟨hprepared, hq⟩
    obtain ⟨row, hrow, hpast⟩ := h.waiting id run hrun hhosted hnq (by simpa using hlive)
    obtain rfl := Option.mem_unique hget hrow
    exact hpast hprepared
  · obtain ⟨row, db₂, hsettle, hend⟩ := ok_of_bind hy
    cases hend
    have hcalm := applyEvent_after h (.inl fun _ => .inr rfl) hevent
    have hunknown : unknown.run.runId = id := by
      obtain ⟨c, -, -, -, hr⟩ :=
        applyEvent_ends hrun (by simpa using hlive) rfl rfl rfl hevent
      rw [hr]
      exact hrunId
    rw [hunknown] at hsettle
    have hcalm₂ := (settleFromRun_calm id _ now).after hcalm.1 hsettle
    exact ⟨hcalm₂.1, hcalm.2.trans hcalm₂.2,
      (OnlyAt.after (applyEvent_only _ _ _) hevent).trans
        (OnlyAt.after (settleFromRun_only _ _ _) hsettle),
      settleFromRun_rests hsettle⟩

/-! ## The whole recovery -/

/-- The loop has still to visit `rest`, and whatever it has not to visit is at rest. -/
structure Walking (start : HostedDb) (rest : List HostedInvocationRecord) (db : HostedDb) :
    Prop where
  inv : HostedInv db
  calm : CalmRows start db
  nodup : (rest.map (·.runId)).Nodup
  current : ∀ row ∈ rest, ∃ stored, db.invocations.get row.runId = some stored ∧ stored.val = row
  visited : ∀ id, (∀ row ∈ rest, row.runId ≠ id) → AtRest db id

theorem mem_unsettled (h : HostedInv db) :
    row ∈ unsettledInvocations db ↔ ∃ stored, db.invocations.get row.runId = some stored ∧
      stored.val = row ∧ row.state.terminal = false := by
  unfold unsettledInvocations
  rw [Table.mem_orderBy, List.mem_filter, List.mem_map]
  constructor
  · rintro ⟨⟨stored, hmem, rfl⟩, hlive⟩
    obtain ⟨id, hget⟩ := Table.mem_rows.mp hmem
    obtain ⟨hkey, -⟩ := h.row id stored hget
    exact ⟨stored, by rw [hkey]; exact hget, rfl, by simpa using hlive⟩
  · rintro ⟨stored, hget, rfl, hlive⟩
    exact ⟨⟨stored, Table.mem_rows.mpr ⟨_, hget⟩, rfl⟩, by simpa using hlive⟩

theorem walking_start (h : HostedInv db) : Walking db (unsettledInvocations db) db := by
  refine ⟨h, CalmRows.refl db, ?_, fun row hmem => ?_, fun id hnone stored hget => ?_⟩
  · have hrows : ((db.invocations.rows.map (·.val)).map (·.runId)).Nodup := by
      rw [List.map_map]
      exact Table.nodup_rows_map fun id stored hget => (h.row id stored hget).1
    have hperm := Table.orderBy_perm
      (fun row : HostedInvocationRecord => [row.preparedAt, row.invocationId])
      ((db.invocations.rows.map (·.val)).filter fun row => row.state.terminal = false)
    refine (hperm.map fun row : HostedInvocationRecord => row.runId).nodup_iff.mpr ?_
    exact hrows.sublist (List.filter_sublist.map _)
  · obtain ⟨stored, hget, heq, -⟩ := (mem_unsettled h).mp hmem
    exact ⟨stored, hget, heq⟩
  · left
    by_contra hlive
    have hkey := (h.row id stored hget).1
    refine hnone stored.val ((mem_unsettled h).mpr ⟨stored, ?_, rfl, by simpa using hlive⟩) hkey
    rw [hkey]
    exact hget

/-- One pass visits one intent. -/
theorem Walking.pass {start : HostedDb} {rest : List HostedInvocationRecord}
    (hw : Walking start (row :: rest) db)
    (hx : recoverInvocation services now row db = (.ok r, db')) : Walking start rest db' := by
  obtain ⟨stored, hget, rfl⟩ := hw.current row List.mem_cons_self
  have hpassed := recoverInvocation_passed services hw.inv hget hx
  obtain ⟨hfirst, hnodup⟩ := List.nodup_cons.mp hw.nodup
  have hne : ∀ row ∈ rest, row.runId ≠ stored.val.runId := fun row hmem heq =>
    hfirst (List.mem_map.mpr ⟨row, hmem, heq⟩)
  refine ⟨hpassed.inv, hw.calm.trans hpassed.calm, hnodup, fun row hmem => ?_,
    fun id hnone => ?_⟩
  · obtain ⟨stored', hget', heq⟩ := hw.current row (List.mem_cons_of_mem _ hmem)
    exact ⟨stored', (hpassed.only.rows _ (hne row hmem)).trans hget', heq⟩
  · by_cases hid : id = stored.val.runId
    · rw [hid]
      exact hpassed.rests
    · intro stored' hget'
      have hrest := hw.visited id (fun row hmem => ?_) stored'
        ((hpassed.only.rows id hid).symm.trans hget')
      · rcases hrest with hended | ⟨hprepared, run, hrun, hqueued⟩
        · exact .inl hended
        · exact .inr ⟨hprepared, run, (hpassed.only.runs id hid).trans hrun, hqueued⟩
      · rcases List.mem_cons.mp hmem with rfl | hmem
        · exact fun heq => hid heq.symm
        · exact hnone row hmem

/-- **Nothing is under way.** Every intent has ended or waits for its dispatch, and every Hosted
Agent's Run has ended or waits in the queue. -/
structure NothingUnderWay (db : HostedDb) : Prop where
  intents : ∀ id, AtRest db id
  runs : ∀ id run, db.central.runs.get id = some run →
    isHosted db.central run.targetAgentId = true →
    run.state = .queued ∨ run.state.terminal = true

theorem nothingUnderWay_of_rest (h : HostedInv db) (hrest : ∀ id, AtRest db id) :
    NothingUnderWay db := by
  refine ⟨hrest, fun id run hrun hhosted => ?_⟩
  by_contra hnot
  rw [not_or] at hnot
  have hlive : run.state.terminal = false := by simpa using hnot.2
  obtain ⟨stored, hget, hpast⟩ := h.waiting id run hrun hhosted hnot.1 hlive
  rcases hrest id stored hget with hended | ⟨hprepared, -⟩
  · obtain ⟨-, run', hrun', -, hagrees⟩ := h.row id stored hget
    obtain rfl := Option.mem_unique hrun hrun'
    exact hnot.2 (hagrees.settled hended).1
  · exact hpast hprepared

theorem orphaned_nil (h : HostedInv db) (hrest : ∀ id, AtRest db id) : orphanedRunIds db = [] := by
  unfold orphanedRunIds
  rw [List.map_eq_nil_iff, List.eq_nil_iff_forall_not_mem]
  intro run hmem
  rw [Table.mem_orderBy, List.mem_filter] at hmem
  obtain ⟨hrow, hselected⟩ := hmem
  simp only [decide_eq_true_eq] at hselected
  obtain ⟨hhosted, hstarted, -⟩ := hselected
  obtain ⟨id, hget⟩ := Table.mem_rows.mp hrow
  rcases (nothingUnderWay_of_rest h hrest).runs id run hget hhosted with hq | hended
  · rcases hstarted with hs | hs <;> rw [hs] at hq <;> cases hq
  · rcases hstarted with hs | hs <;> rw [hs] at hended <;> cases hended

/-- **What a recovery that returns leaves.** -/
theorem recover_ok {result : HostedInvocationRecovery} (h : HostedInv db)
    (hx : recover services now db = (.ok result, db')) :
    HostedInv db' ∧ CalmRows db db' ∧ NothingUnderWay db' := by
  have hx₀ := ok_of_immediate hx
  clear hx
  rw [get_bind] at hx₀
  obtain ⟨recovered, db₁, hloop, hy⟩ := ok_of_bind hx₀
  have hwalked : Walking db [] db₁ := forEach_ok
    (fun row rest s r s' hw hpass => hw.pass services hpass) (walking_start h) hloop
  have hrest : ∀ id, AtRest db₁ id := fun id => hwalked.visited id nofun
  rw [get_bind, orphaned_nil hwalked.inv hrest] at hy
  cases hy
  exact ⟨hwalked.inv, hwalked.calm, nothingUnderWay_of_rest hwalked.inv hrest⟩

theorem recover_calm (now : Time) : Calmly (recover services now) := by
  intro db h
  rcases hx : recover services now db with ⟨e | result, db'⟩
  · obtain rfl := state_of_immediate_error hx
    exact ⟨h, CalmRows.refl _⟩
  · obtain ⟨hinv, hcalm, -⟩ := recover_ok services h hx
    exact ⟨hinv, hcalm⟩

/-! ## When it returns -/

theorem closedFailureCode_pattern (value : String) :
    failureCodePattern (closedFailureCode value) = true := by
  unfold closedFailureCode
  split
  · next h => exact h
  · decide

theorem ended_valid {state : HostedInvocationState} {code : Option String} (hv : row.valid = true)
    (hlegal : legalTransition row.state state = true) (hended : state.terminal = true)
    (hcode : code.all failureCodePattern = true) (hshown : code.isSome = true ↔ state ≠ .completed)
    (hcanceled : state = .canceled → row.cancellation.isSome = true) :
    (row.ended state code now).valid = true := by
  unfold HostedInvocationRecord.valid HostedInvocationRecord.ended at *
  cases hs : row.state <;> rw [hs] at hlegal hv <;> cases state <;>
    simp_all [legalTransition, HostedInvocationState.terminal]

/-- The database admits the end of this intent with its Run. -/
structure Settles (now : Time) (row : HostedInvocationRecord) (run : RunState) : Prop where
  /-- The clock has not gone back. -/
  onTime : row.updatedAt ≤ now
  /-- A prepared intent can only fail, or be canceled on request. -/
  prepared : row.state = .prepared → run.terminal = true →
    run = .failed ∨ run = .expired ∨ (run = .canceled ∧ row.cancellation.isSome = true)

theorem settledState_legal {run : RunState} (hs : Settles now row run)
    (hlive : row.state.terminal = false) (hended : run.terminal = true) :
    legalTransition row.state (settledState row.state run) = true ∧
      (settledState row.state run).terminal = true ∧
      (settledState row.state run = .canceled → row.cancellation.isSome = true) := by
  have hp := hs.prepared
  cases hstate : row.state <;> rw [hstate] at hlive hp <;> cases run <;>
    simp_all [settledState, invocationState, legalTransition, HostedInvocationState.terminal,
      RunState.terminal]

theorem settleFromRun_returns (hget : db.invocations.get id = some stored)
    (hlive : stored.val.state.terminal = false) (hrun : db.central.runs.get id = some run)
    (hended : run.state.terminal = true) (hs : Settles now stored.val run.state) :
    ∃ row db', settleFromRun id failureCode now db = (.ok row, db') := by
  obtain ⟨hlegal, hterminal, hcanceled⟩ := settledState_legal hs hlive hended
  generalize hstate : settledState stored.val.state run.state = state at *
  have hv : (stored.val.ended state
      (if state = .completed then none else some (closedFailureCode failureCode)) now).valid =
        true := by
    refine ended_valid stored.2 hlegal hterminal ?_ ?_ hcanceled
    · split
      · rfl
      · exact closedFailureCode_pattern failureCode
    · split <;> simp_all
  refine immediate_returns ?_
  rw [bind_ok (require_of_get hget), hlive, if_neg (by decide),
    bind_ok (requireRun_of_get hrun), hended, if_neg (by decide), hstate]
  rw [bind_ok (updateState_of_get hget (by rw [hlive]; rfl) hlegal hs.onTime hv)]
  exact ⟨_, _, require_of_get (Table.get_put_self _ _ _)⟩

theorem cancelPrepared_returns (hget : db.invocations.get id = some stored)
    (hprepared : stored.val.state = .prepared) (hrequested : stored.val.cancellation.isSome = true)
    (hrun : db.central.runs.get id = some run) (hqueued : run.state = .queued)
    (htime : stored.val.updatedAt ≤ now) :
    ∃ canceled db', cancelPrepared services id memberId reason now db = (.ok canceled, db') := by
  have hrequest : requestCancellation services id memberId reason now db =
      (.ok (some stored.val), db) := by
    refine immediate_ok ?_
    rw [getByRun_bind, hget]
    dsimp only [Option.map]
    rw [hprepared, if_neg (by decide), if_pos hrequested]
    rfl
  obtain ⟨r, c, hevent, -, -⟩ := endRun_returns now .canceled "HOSTED_RUN_CANCELED_PRE_DISPATCH"
    "Hosted Run was canceled before provider dispatch." hrun (by rw [hqueued]; rfl)
  have hlegal : legalTransition stored.val.state .canceled = true := by
    rw [hprepared]
    rfl
  have hv : (stored.val.ended .canceled (some "HOSTED_RUN_CANCELED_PRE_DISPATCH") now).valid =
      true := by
    refine ended_valid stored.2 hlegal rfl ?_ ?_ fun _ => hrequested
    · decide
    · simp
  have hget' : (HostedDb.mk c db.invocations).invocations.get id = some stored := hget
  refine immediate_returns ?_
  rw [bind_ok (require_of_get hget), bind_ok (requireRun_of_get hrun), hprepared,
    if_neg (by decide), hqueued, if_neg (by decide), bind_ok hrequest, bind_ok hevent]
  rw [bind_ok (updateState_of_get hget' (by rw [hprepared, hrequested]; rfl) hlegal htime hv)]
  exact ⟨_, _, rfl⟩

theorem recoverInvocation_returns (h : HostedInv db) (hget : db.invocations.get id = some stored)
    (hlive : stored.val.state.terminal = false)
    (hs : ∀ run, db.central.runs.get id = some run → Settles now stored.val run.state) :
    ∃ r db', recoverInvocation services now stored.val db = (.ok r, db') := by
  obtain ⟨hkey, run, hrun, hhosted, -⟩ := h.row id stored hget
  have hrunId := h.keyed id run hrun
  have hread : ∀ {β : Type} (f : Option RunRecord → HDb β),
      (onCentral (getRun id) >>= f) db = f (db.central.runs.get id) db := fun _ => rfl
  have hsettles := hs run hrun
  unfold recoverInvocation
  rw [hkey, hread, hrun]
  dsimp only
  rw [hrunId]
  by_cases hended : run.state.terminal = true
  · -- the Run has ended: its row is settled from it
    obtain ⟨row, db₁, hsettle⟩ := settleFromRun_returns hget hlive hrun hended hsettles
    rw [if_pos hended, bind_ok (hsettle)]
    exact ⟨_, _, rfl⟩
  rw [if_neg hended]
  have hended : run.state.terminal = false := by simpa using hended
  -- a Run whose row is prepared is still queued
  have hwaits : stored.val.state = .prepared → run.state = .queued := by
    intro hprepared
    by_contra hnq
    obtain ⟨row, hrow, hpast⟩ := h.waiting id run hrun hhosted hnq hended
    obtain rfl := Option.mem_unique hget hrow
    exact hpast hprepared
  by_cases hprepared : stored.val.state = .prepared
  · unfold preparedCancellation
    rw [if_pos hprepared]
    cases hrequest : stored.val.cancellation with
    | none =>
      dsimp only
      -- prepared and not canceled: it may be sent
      rw [if_pos ⟨hprepared, hwaits hprepared⟩]
      exact ⟨_, _, rfl⟩
    | some request =>
      dsimp only
      obtain ⟨canceled, db₁, hcancel⟩ := cancelPrepared_returns services hget hprepared
        (by rw [hrequest]; rfl) hrun (hwaits hprepared) hsettles.onTime
      rw [bind_ok hcancel]
      exact ⟨_, _, rfl⟩
  · unfold preparedCancellation
    rw [if_neg hprepared]
    dsimp only
    -- past the fence: what the provider did is unknown
    rw [if_neg fun hboth => hprepared hboth.1]
    obtain ⟨r, c, hevent, hr, hruns⟩ := endRun_returns now .outcomeUnknown
      "HOSTED_SERVER_RESTART_UNKNOWN"
      "Central restarted after the Hosted provider dispatch fence." hrun hended
    rw [bind_ok hevent, if_neg hprepared, hr]
    have hget' : (HostedDb.mk c db.invocations).invocations.get id = some stored := hget
    have hrun' : (HostedDb.mk c db.invocations).central.runs.get id =
        some (run.advanced (statusEvent (run.lastSequence + 1) .outcomeUnknown
          "HOSTED_SERVER_RESTART_UNKNOWN"
          "Central restarted after the Hosted provider dispatch fence.") now) := by
      show c.runs.get id = _
      rw [hruns, Table.get_put_self]
    obtain ⟨row, db₂, hsettle⟩ : ∃ row db₂, settleFromRun id "HOSTED_SERVER_RESTART_UNKNOWN" now
        ⟨c, db.invocations⟩ = (.ok row, db₂) :=
      settleFromRun_returns hget' hlive hrun' rfl
        ⟨hsettles.onTime, fun hp => absurd hp hprepared⟩
    show ∃ r db', (settleFromRun run.runId _ now >>= _) _ = _
    rw [hrunId, bind_ok hsettle]
    exact ⟨_, _, rfl⟩

/-- The database admits the end of every unsettled intent. -/
def Recoverable (now : Time) (db : HostedDb) : Prop :=
  ∀ id stored run, db.invocations.get id = some stored → stored.val.state.terminal = false →
    db.central.runs.get id = some run → Settles now stored.val run.state

/-- **When a recovery returns.** -/
theorem recover_returns (h : HostedInv db) (hr : Recoverable now db) :
    ∃ result db', recover services now db = (.ok result, db') := by
  refine immediate_returns ?_
  rw [get_bind]
  obtain ⟨recovered, db₁, hloop, hwalked, -⟩ := forEach_returns
    (J := fun rest s => Walking db rest s ∧
      ∀ row ∈ rest, row.state.terminal = false ∧
        ∀ run, s.central.runs.get row.runId = some run → Settles now row run.state)
    (fun row rest s hJ => by
      obtain ⟨hw, hsettles⟩ := hJ
      obtain ⟨stored, hget, rfl⟩ := hw.current row List.mem_cons_self
      obtain ⟨hlive, hrow⟩ := hsettles _ List.mem_cons_self
      obtain ⟨r, s', hpass⟩ := recoverInvocation_returns services hw.inv hget hlive hrow
      have honly := (recoverInvocation_passed services hw.inv hget hpass).only
      have hfirst := (List.nodup_cons.mp hw.nodup).1
      refine ⟨r, s', hpass, hw.pass services hpass, fun row hmem => ?_⟩
      obtain ⟨hlive', hrow'⟩ := hsettles row (List.mem_cons_of_mem _ hmem)
      refine ⟨hlive', fun run hrun => hrow' run ?_⟩
      refine (honly.runs row.runId fun heq => hfirst ?_).symm.trans hrun
      exact List.mem_map.mpr ⟨row, hmem, heq⟩)
    ⟨walking_start h, fun row hmem => by
      obtain ⟨stored, hget, rfl, hlive⟩ := (mem_unsettled h).mp hmem
      exact ⟨hlive, fun run hrun => hr _ stored run hget hlive hrun⟩⟩
  have hrest : ∀ id, AtRest db₁ id := fun id => hwalked.visited id nofun
  rw [bind_ok hloop, get_bind, orphaned_nil hwalked.inv hrest]
  exact ⟨_, _, rfl⟩

end AgentRoom.Hosted
