import AgentRoom.Run.Retries

/-!
# The law of retries

One inversion lemma for each request says everything it can do: throw and write nothing, find the
row of an earlier request and write nothing, or write its own. The invariant is about the rows of
`run_retry_operations`: the Runs they name stay, with their Task and their attempt number, so what
held when a retry was written holds of every later state.
-/

namespace AgentRoom

open Tx

namespace Lineage

variable {services : Services}

/-! ## What stays of a Run -/

/-- What no write changes of a Run: where it belongs and which attempt it is, and its end. -/
structure Kept (run run' : RunRecord) : Prop where
  runId : run'.runId = run.runId
  taskId : run'.taskId = run.taskId
  triggerMessageId : run'.triggerMessageId = run.triggerMessageId
  targetAgentId : run'.targetAgentId = run.targetAgentId
  parentRunId : run'.parentRunId = run.parentRunId
  orchestrationKey : run'.orchestrationKey = run.orchestrationKey
  attemptNumber : run'.attemptNumber = run.attemptNumber
  retryOfRunId : run'.retryOfRunId = run.retryOfRunId
  state : run.state.terminal = true → run'.state = run.state

theorem Kept.refl (run : RunRecord) : Kept run run :=
  ⟨rfl, rfl, rfl, rfl, rfl, rfl, rfl, rfl, fun _ => rfl⟩

theorem Kept.trans {a b c : RunRecord} (h₁ : Kept a b) (h₂ : Kept b c) : Kept a c where
  runId := h₂.runId.trans h₁.runId
  taskId := h₂.taskId.trans h₁.taskId
  triggerMessageId := h₂.triggerMessageId.trans h₁.triggerMessageId
  targetAgentId := h₂.targetAgentId.trans h₁.targetAgentId
  parentRunId := h₂.parentRunId.trans h₁.parentRunId
  orchestrationKey := h₂.orchestrationKey.trans h₁.orchestrationKey
  attemptNumber := h₂.attemptNumber.trans h₁.attemptNumber
  retryOfRunId := h₂.retryOfRunId.trans h₁.retryOfRunId
  state hend := (h₂.state (h₁.state hend ▸ hend)).trans (h₁.state hend)

/-- Every Run is still there, and kept. -/
def RunsKept (db db' : Central) : Prop :=
  ∀ id run, db.runs.get id = some run → ∃ run', db'.runs.get id = some run' ∧ Kept run run'

theorem runsKept_refl (db : Central) : RunsKept db db := fun _ run h => ⟨run, h, .refl run⟩

theorem runsKept_trans {a b c : Central} (h₁ : RunsKept a b) (h₂ : RunsKept b c) :
    RunsKept a c := by
  intro id run hget
  obtain ⟨run', hget', hkept⟩ := h₁ id run hget
  obtain ⟨run'', hget'', hkept'⟩ := h₂ id run' hget'
  exact ⟨run'', hget'', hkept.trans hkept'⟩

variable {db db' : Central}

theorem runsKept_of_eq (h : db'.runs = db.runs) : RunsKept db db' :=
  fun _ run hget => ⟨run, by rw [h, hget], .refl run⟩

variable {id : RunId} {run : RunRecord}

theorem runsKept_put (hnew : db.runs.get id = none) (h : db'.runs = db.runs.put id run) :
    RunsKept db db' := by
  intro id' run' hget
  have hne : id' ≠ id := by
    rintro rfl
    rw [hnew] at hget
    cases hget
  exact ⟨run', by rw [h, Table.get_put_ne _ _ hne, hget], .refl run'⟩

theorem runsKept_move {K : Allows} (h : Move K db db') : RunsKept db db' := by
  cases h with
  | append h adm allowed =>
    rename_i id run event now
    intro id' run' hget
    rw [h.runs, Table.get_put]
    by_cases hid : id' = id
    · subst hid
      obtain rfl : run = run' := by simpa [h.get] using hget
      refine ⟨_, if_pos rfl, rfl, rfl, rfl, rfl, rfl, rfl, rfl, rfl, fun hend => ?_⟩
      rw [h.live] at hend
      cases hend
    · exact ⟨run', by rw [if_neg hid, hget], .refl run'⟩
  | createRun fresh key state sequence terminalAt => exact runsKept_put fresh rfl
  | openIntent get live first key pending status => exact runsKept_of_eq rfl
  | settleIntent get ended => exact runsKept_of_eq rfl
  | touchIntent get pending => exact runsKept_of_eq rfl
  | deliver known => exact runsKept_of_eq rfl
  | send stored allowed => exact runsKept_of_eq rfl
  | side h => exact runsKept_of_eq h.runs

theorem runsKept_moves {K : Allows} (h : Relation.ReflTransGen (Move K) db db') :
    RunsKept db db' := by
  induction h with
  | refl => exact runsKept_refl db
  | tail _ hlast ih => exact runsKept_trans ih (runsKept_move hlast)

/-! ## Attempt numbers -/

theorem le_foldl_max (l : List Nat) (a : Nat) : a ≤ l.foldl max a ∧ ∀ n ∈ l, n ≤ l.foldl max a := by
  induction l generalizing a with
  | nil => simp
  | cons b l ih =>
    obtain ⟨hle, hall⟩ := ih (max a b)
    refine ⟨le_trans (le_max_left a b) hle, fun n hn => ?_⟩
    obtain rfl | hn := List.mem_cons.mp hn
    · exact le_trans (le_max_right a n) hle
    · exact hall n hn

theorem attempt_lt_next (h : db.runs.get id = some run) :
    run.attemptNumber < db.nextAttemptNumber run.taskId := by
  refine Nat.lt_succ_of_le ((le_foldl_max _ 0).2 _ ?_)
  refine List.mem_map_of_mem (List.mem_filter.mpr ⟨Table.mem_rows.mpr ⟨id, h⟩, ?_⟩)
  exact decide_eq_true rfl

theorem nextAttemptNumber_congr (h : db'.runs = db.runs) (taskId : TaskId) :
    db'.nextAttemptNumber taskId = db.nextAttemptNumber taskId := by
  unfold Central.nextAttemptNumber
  rw [h]

/-! ## Programs on the whole -/

variable {α : Type} {a : α}

theorem onCentral_ok {x : Db α} {s s' : Lineage} (h : onCentral x s = (.ok a, s')) :
    ∃ db, x s.central = (.ok a, db) ∧ s' = { s with central := db } := by
  obtain ⟨hres, rfl⟩ := Prod.mk.inj h
  exact ⟨_, Prod.ext hres rfl, rfl⟩

variable {u : Unit}

theorem require_ok {c : Prop} [Decidable c] {e : Err} {s s' : Lineage}
    (h : require c e s = (.ok u, s')) : c ∧ s = s' := by
  unfold require at h
  split at h
  · next hc => exact ⟨hc, (Prod.mk.inj h).2⟩
  · cases (Prod.mk.inj h).1

theorem check_ok {x : Except Err α} {s s' : Lineage} (h : check x s = (.ok a, s')) :
    x = .ok a ∧ s = s' := by
  cases x with
  | ok b =>
    obtain ⟨hres, rfl⟩ := Prod.mk.inj h
    exact ⟨hres, rfl⟩
  | error e => cases (Prod.mk.inj h).1

theorem demand_ok {o : Option α} {e : Err} {s s' : Lineage} (h : demand o e s = (.ok a, s')) :
    o = some a ∧ s = s' := by
  cases o with
  | some b =>
    obtain ⟨hres, rfl⟩ := Prod.mk.inj h
    exact ⟨congrArg some (Except.ok.inj hres), rfl⟩
  | none => cases (Prod.mk.inj h).1

/-! ## What a request does -/

variable {s s' : Lineage}

theorem recordAcknowledgement_ok {input : AcknowledgeInput}
    (h : recordAcknowledgement input run s = (.ok u, s')) :
    s'.central = s.central ∧ s'.retryOperations = s.retryOperations ∧
      s'.acknowledgements = s.acknowledgements.put input.runId (input.row run.taskId) := by
  obtain ⟨task, s₁, htask, h⟩ := ok_of_bind (show ((demand _ _ >>= _) s) = _ from h)
  obtain ⟨-, rfl⟩ := demand_ok htask
  obtain ⟨_, s₁, hchecks, h⟩ := ok_of_bind h
  obtain ⟨-, rfl⟩ := require_ok hchecks
  obtain ⟨_, s₁, hmember, h⟩ := ok_of_bind h
  obtain ⟨-, rfl⟩ := require_ok hmember
  obtain ⟨-, rfl⟩ := Prod.mk.inj h
  exact ⟨rfl, rfl, rfl⟩

/-- **What an acknowledgement does.** -/
theorem acknowledgeAmbiguity_cases (input : AcknowledgeInput) (s : Lineage) :
    (∃ e, acknowledgeAmbiguity input s = (.error e, s)) ∨
    (∃ operation, s.acknowledgementOf input.operationId = some operation ∧
      operation.runId = input.runId ∧
      acknowledgeAmbiguity input s = (.ok (s.acknowledgements.get input.runId), s)) ∨
    (∃ run s', s.acknowledgementOf input.operationId = none ∧
      s.central.runs.get input.runId = some run ∧ run.state = .outcomeUnknown ∧
      s.acknowledgements.get input.runId = none ∧ s'.central = s.central ∧
      s'.retryOperations = s.retryOperations ∧
      s'.acknowledgements = s.acknowledgements.put input.runId (input.row run.taskId) ∧
      acknowledgeAmbiguity input s = (.ok (some (input.row run.taskId)), s')) := by
  rcases immediate_cases (acknowledgeOnce input) s with ⟨e, he⟩ | ⟨u, s', hrun, hok⟩
  · exact .inl ⟨e, bind_error he⟩
  · have hreturn : acknowledgeAmbiguity input s =
        (.ok (s'.acknowledgements.get input.runId), s') := bind_ok hok
    rw [hreturn]
    unfold acknowledgeOnce at hrun
    rw [get_bind] at hrun
    cases hknown : s.acknowledgementOf input.operationId with
    | some operation =>
      rw [hknown] at hrun
      obtain ⟨hsame, rfl⟩ := require_ok hrun
      exact .inr (.inl ⟨operation, rfl, hsame, rfl⟩)
    | none =>
      rw [hknown] at hrun
      obtain ⟨run, s₁, hdemand, hrun⟩ := ok_of_bind hrun
      obtain ⟨hfound, rfl⟩ := demand_ok hdemand
      obtain ⟨hget, hstate⟩ := Option.filter_eq_some_iff.mp hfound
      obtain ⟨_, s₁, hrequire, hrun⟩ := ok_of_bind hrun
      obtain ⟨hnone, rfl⟩ := require_ok hrequire
      obtain ⟨hcentral, hretries, hacks⟩ := recordAcknowledgement_ok hrun
      refine .inr (.inr ⟨run, s', rfl, hget, of_decide_eq_true hstate, hnone, hcentral,
        hretries, hacks, ?_⟩)
      rw [hacks, Table.get_put_self]

/-- What a check of a retry says of its parent. -/
structure Retryable (s : Lineage) (input : RetryInput) (parent : RunRecord) : Prop where
  get : s.central.runs.get input.parentRunId = some parent
  ended : parent.state.terminal = true
  unsuccessful : parent.state ≠ .completed
  acknowledged : parent.state = .outcomeUnknown →
    ∃ acknowledgement, s.acknowledgements.get parent.runId = some acknowledgement

variable {input : RetryInput} {parent : RunRecord}

theorem retryable_ok (h : s.retryable input = .ok parent) : Retryable s input parent := by
  unfold retryable at h
  obtain ⟨run, hfound, h⟩ := Except.of_demand h
  obtain ⟨hacknowledged, h⟩ := Except.of_require h
  obtain ⟨task, -, h⟩ := Except.of_demand h
  iterate 3 obtain ⟨-, h⟩ := Except.of_require h
  obtain rfl := Except.ok.inj h
  obtain ⟨hget, hstate⟩ := Option.filter_eq_some_iff.mp hfound
  obtain ⟨hended, hunsuccessful⟩ := Bool.and_eq_true_iff.mp hstate
  exact ⟨hget, hended, of_decide_eq_true hunsuccessful, fun hunknown =>
    Option.isSome_iff_exists.mp (hacknowledged hunknown)⟩

/-- **A retry is written**: one new Run, queued, with the next attempt number of its parent's Task,
and the row of its operation. No event and no delivery comes with it. -/
structure Retried (input : RetryInput) (parent run : RunRecord) (s s' : Lineage) : Prop where
  fresh : s.central.runs.get run.runId = none
  runs : s'.central.runs = s.central.runs.put run.runId run
  events : s'.central.runEvents = s.central.runEvents
  deliveries : s'.central.deliveries = s.central.deliveries
  queued : run.state = .queued
  taskId : run.taskId = parent.taskId
  targetAgentId : run.targetAgentId = parent.targetAgentId
  parentRunId : run.parentRunId = none
  retryOfRunId : run.retryOfRunId = some parent.runId
  attemptNumber : run.attemptNumber = s.central.nextAttemptNumber parent.taskId
  retryOperations : s'.retryOperations =
    s.retryOperations.put input.operationId (input.row run.runId)
  acknowledgements : s'.acknowledgements = s.acknowledgements

theorem side_of_ok {x : Db α} (hx : Along SideOnly x db) (h : x db = (.ok a, db')) :
    SideOnly db db' := by
  have hside := SideOnly.of_along hx
  rwa [h] at hside

/-- The row of a new Run is the one that was asked for. -/
structure RowOf (request : RunRequest) (attemptNumber : Nat) (run : RunRecord) : Prop where
  runId : run.runId = request.runId
  taskId : run.taskId = request.taskId
  triggerMessageId : run.triggerMessageId = request.triggerMessageId
  targetAgentId : run.targetAgentId = request.targetAgentId
  parentRunId : run.parentRunId = request.parentRunId
  orchestrationKey : run.orchestrationKey = request.orchestrationKey
  retryOfRunId : run.retryOfRunId = request.retryOfRunId
  attemptNumber : run.attemptNumber = request.attemptNumber.getD attemptNumber
  queued : run.state = .queued

theorem insertRunIdentity_ok {request : RunRequest}
    (h : RunRepository.insertRunIdentity request db = (.ok u, db')) :
    db.runs.get request.runId = none ∧ ∃ run,
      RowOf request (db.nextAttemptNumber request.taskId) run ∧
      db' = { db with runs := db.runs.put request.runId run } := by
  unfold RunRepository.insertRunIdentity at h
  rw [get_bind] at h
  split at h
  · cases (Prod.mk.inj h).1
  · next hfresh =>
      obtain ⟨-, rfl⟩ := Prod.mk.inj h
      exact ⟨by simpa using hfresh, _, ⟨rfl, rfl, rfl, rfl, rfl, rfl, rfl, rfl, rfl⟩, rfl⟩

variable {runId : RunId}

theorem freezeContextManifest_ok
    (h : RunRepository.freezeContextManifest services runId db = (.ok u, db')) :
    ∃ manifests, db' = { db with contextManifests := manifests } := by
  unfold RunRepository.freezeContextManifest at h
  rw [get_bind] at h
  cases hmanifest : services.buildContextManifest db runId with
  | error e =>
    rw [hmanifest] at h
    cases (Prod.mk.inj h).1
  | ok manifest =>
    rw [hmanifest] at h
    dsimp only at h
    split at h
    · cases (Prod.mk.inj h).1
    · exact ⟨_, (Prod.mk.inj h).2.symm⟩

theorem countRun_ok {taskId : TaskId} (h : countRun taskId s = (.ok u, s')) :
    s'.central = s.central ∧ s'.retryOperations = s.retryOperations ∧
      s'.acknowledgements = s.acknowledgements := by
  obtain ⟨-, rfl⟩ := Prod.mk.inj h
  dsimp only
  split <;> exact ⟨rfl, rfl, rfl⟩

/-- **One Run is created.** -/
theorem createRun_ok {request : RunRequest} (h : createRun services request s = (.ok u, s')) :
    s.checkRunInsert request = .ok () ∧ s.central.runs.get request.runId = none ∧
    s'.retryOperations = s.retryOperations ∧ s'.acknowledgements = s.acknowledgements ∧
    ∃ run manifests, RowOf request (s.central.nextAttemptNumber request.taskId) run ∧
      s'.central = { s.central with
        runs := s.central.runs.put request.runId run, contextManifests := manifests } := by
  have h := ok_of_immediate h
  rw [get_bind] at h
  obtain ⟨_, s₁, hpasses, h⟩ := ok_of_bind h
  obtain ⟨hcheck, rfl⟩ := check_ok hpasses
  obtain ⟨_, s₂, honCentral, h⟩ := ok_of_bind h
  obtain ⟨db, hinsert, rfl⟩ := onCentral_ok honCentral
  obtain ⟨hfresh, run, hrun, rfl⟩ := insertRunIdentity_ok hinsert
  obtain ⟨_, s₃, hcount, h⟩ := ok_of_bind h
  obtain ⟨hcentral, hretries, hacks⟩ := countRun_ok hcount
  obtain ⟨db, hfreeze, rfl⟩ := onCentral_ok h
  rw [hcentral] at hfreeze
  obtain ⟨manifests, rfl⟩ := freezeContextManifest_ok hfreeze
  exact ⟨hcheck, hfresh, hretries, hacks, run, manifests, hrun, rfl⟩

theorem writeRetry_ok (h : writeRetry services input parent s = (.ok runId, s')) :
    ∃ run, run.runId = runId ∧ Retried input parent run s s' := by
  unfold writeRetry at h
  obtain ⟨retryRunId, s₁, hid₀, h⟩ := ok_of_bind h
  obtain ⟨db₁, hid, rfl⟩ := onCentral_ok hid₀
  obtain ⟨messageId, s₂, hmessage₀, h⟩ := ok_of_bind h
  obtain ⟨db₂, hmessage, rfl⟩ := onCentral_ok hmessage₀
  obtain ⟨sequence, s₃, hsequence₀, h⟩ := ok_of_bind h
  obtain ⟨db₃, hsequence, rfl⟩ := onCentral_ok hsequence₀
  obtain ⟨_, s₄, htrigger₀, h⟩ := ok_of_bind h
  obtain ⟨db₄, htrigger, rfl⟩ := onCentral_ok htrigger₀
  obtain ⟨_, s₅, hcreate, h⟩ := ok_of_bind h
  obtain ⟨_, s₆, hrecord, h⟩ := ok_of_bind h
  obtain ⟨hres, rfl⟩ := Prod.mk.inj h
  obtain rfl := Except.ok.inj hres
  -- the identifiers, the sequence and the trigger are written beside the Runs
  have hside : SideOnly s.central db₄ :=
    (side_of_ok (RunRepository.createOpaqueId_side _) hid).trans <|
      (side_of_ok (RunRepository.createOpaqueId_side _) hmessage).trans <|
      (side_of_ok (RunRepository.nextMessageSequence_side _ _) hsequence).trans <|
      side_of_ok (along_modify ⟨rfl, rfl, rfl, rfl, rfl⟩) htrigger
  obtain ⟨-, hfresh, hretries, hacks, run, manifests, hrun, hcentral⟩ := createRun_ok hcreate
  unfold recordRetryOperation at hrecord
  obtain ⟨_, s₇, hpattern, hrecord⟩ := ok_of_bind hrecord
  obtain ⟨-, rfl⟩ := require_ok hpattern
  rw [get_bind] at hrecord
  obtain ⟨_, s₇, hmember, hrecord⟩ := ok_of_bind hrecord
  obtain ⟨-, rfl⟩ := require_ok hmember
  obtain ⟨-, rfl⟩ := Prod.mk.inj hrecord
  refine ⟨run, hrun.runId, ?_⟩
  constructor
  · rw [hrun.runId, ← hside.runs]
    exact hfresh
  · rw [hrun.runId, ← hside.runs]
    exact congrArg Central.runs hcentral
  · exact (congrArg Central.runEvents hcentral).trans hside.runEvents
  · exact (congrArg Central.deliveries hcentral).trans hside.deliveries
  · exact hrun.queued
  · exact hrun.taskId
  · exact hrun.targetAgentId
  · exact hrun.parentRunId
  · exact hrun.retryOfRunId
  · rw [hrun.attemptNumber, nextAttemptNumber_congr hside.runs]
    rfl
  · dsimp only
    rw [hretries, hrun.runId]
    rfl
  · exact hacks

/-- **What a retry request does.** -/
theorem createRetry_cases (services : Services) (input : RetryInput) (s : Lineage) :
    (∃ e, createRetry services input s = (.error e, s)) ∨
    (∃ replay, s.retryOperations.get input.operationId = some replay ∧
      replay.parentRunId = input.parentRunId ∧
      createRetry services input s = (.ok (s.central.runs.get replay.retryRunId), s)) ∨
    (∃ parent run s', s.retryOperations.get input.operationId = none ∧
      Retryable s input parent ∧ Retried input parent run s s' ∧
      createRetry services input s = (.ok (some run), s')) := by
  rcases immediate_cases (retryOnce services input) s with ⟨e, he⟩ | ⟨runId, s', hrun, hok⟩
  · exact .inl ⟨e, bind_error he⟩
  · have hreturn : createRetry services input s = (.ok (s'.central.runs.get runId), s') :=
      bind_ok hok
    rw [hreturn]
    unfold retryOnce at hrun
    rw [get_bind] at hrun
    cases hknown : s.retryOperations.get input.operationId with
    | some replay =>
      rw [hknown] at hrun
      obtain ⟨_, s₁, hrequire, hrun⟩ := ok_of_bind hrun
      obtain ⟨hsame, rfl⟩ := require_ok hrequire
      obtain ⟨hres, rfl⟩ := Prod.mk.inj hrun
      obtain rfl := Except.ok.inj hres
      exact .inr (.inl ⟨replay, rfl, hsame, rfl⟩)
    | none =>
      rw [hknown] at hrun
      obtain ⟨parent, s₁, hcheck, hrun⟩ := ok_of_bind hrun
      obtain ⟨hparent, rfl⟩ := check_ok hcheck
      obtain ⟨run, rfl, hretried⟩ := writeRetry_ok hrun
      refine .inr (.inr ⟨parent, run, s', rfl, retryable_ok hparent, hretried, ?_⟩)
      rw [hretried.runs, Table.get_put_self]

variable {row : RetryOperation}

theorem createRetry_replay (hknown : s.retryOperations.get input.operationId = some row)
    (hsame : row.parentRunId = input.parentRunId) :
    createRetry services input s = (.ok (s.central.runs.get row.retryRunId), s) := by
  have hbody : retryOnce services input s = (.ok row.retryRunId, s) := by
    unfold retryOnce
    rw [get_bind, hknown]
    dsimp only [require]
    rw [if_pos hsame]
    rfl
  exact bind_ok (immediate_ok hbody)

theorem acknowledgeAmbiguity_replay {input : AcknowledgeInput}
    {operation : AmbiguityAcknowledgement}
    (hknown : s.acknowledgementOf input.operationId = some operation)
    (hsame : operation.runId = input.runId) :
    acknowledgeAmbiguity input s = (.ok (s.acknowledgements.get input.runId), s) := by
  have hbody : acknowledgeOnce input s = (.ok (), s) := by
    unfold acknowledgeOnce
    rw [get_bind, hknown]
    dsimp only [require]
    rw [if_pos hsame]
    rfl
  exact bind_ok (immediate_ok hbody)

theorem acknowledgementOf_eq_none {operationId : OperationId} :
    s.acknowledgementOf operationId = none ↔
      ∀ runId row, s.acknowledgements.get runId = some row → row.operationId ≠ operationId := by
  unfold acknowledgementOf
  rw [List.find?_eq_none]
  constructor
  · intro hnone runId row hget
    simpa using hnone row (Table.mem_rows.mpr ⟨runId, hget⟩)
  · intro hnone row hrow
    obtain ⟨runId, hget⟩ := Table.mem_rows.mp hrow
    simpa using hnone runId row hget

/-! ## The invariant -/

structure Inv (s : Lineage) : Prop where
  keyed : Keyed s.central
  acknowledged : ∀ runId row, s.acknowledgements.get runId = some row → row.runId = runId ∧
    ∃ run, s.central.runs.get runId = some run ∧ run.state = .outcomeUnknown
  operations : ∀ runId runId' row row', s.acknowledgements.get runId = some row →
    s.acknowledgements.get runId' = some row' → row.operationId = row'.operationId → runId = runId'
  retried : ∀ op row, s.retryOperations.get op = some row → ∃ parent run,
    s.central.runs.get row.parentRunId = some parent ∧
    s.central.runs.get row.retryRunId = some run ∧ run.taskId = parent.taskId ∧
    run.retryOfRunId = some parent.runId ∧ parent.attemptNumber < run.attemptNumber ∧
    parent.state.terminal = true ∧ (parent.state = .outcomeUnknown →
      ∃ acknowledgement, s.acknowledgements.get row.parentRunId = some acknowledgement)
  numbered : ∀ op op' row row' run run', op ≠ op' → s.retryOperations.get op = some row →
    s.retryOperations.get op' = some row' → s.central.runs.get row.retryRunId = some run →
    s.central.runs.get row'.retryRunId = some run' → run.taskId = run'.taskId →
      run.attemptNumber ≠ run'.attemptNumber

/-- What later states keep. -/
structure Grows (s s' : Lineage) : Prop where
  runs : RunsKept s.central s'.central
  retryOperations : ∀ op row, s.retryOperations.get op = some row →
    s'.retryOperations.get op = some row
  acknowledgements : ∀ runId row, s.acknowledgements.get runId = some row →
    s'.acknowledgements.get runId = some row

theorem Grows.refl (s : Lineage) : Grows s s :=
  ⟨runsKept_refl _, fun _ _ h => h, fun _ _ h => h⟩

theorem Grows.trans {a b c : Lineage} (h₁ : Grows a b) (h₂ : Grows b c) : Grows a c :=
  ⟨runsKept_trans h₁.runs h₂.runs, fun op row h => h₂.retryOperations op row
    (h₁.retryOperations op row h), fun runId row h => h₂.acknowledgements runId row
    (h₁.acknowledgements runId row h)⟩

theorem Grows.run_eq (h : Grows s s') {run' : RunRecord} (hget : s.central.runs.get id = some run)
    (hget' : s'.central.runs.get id = some run') :
    Kept run run' := by
  obtain ⟨run₁, hrun₁, hkept⟩ := h.runs id run hget
  obtain rfl := Option.mem_unique hrun₁ hget'
  exact hkept

/-- **What was retried stays so**: of the rows of `s`, in a later state. -/
theorem Inv.retried_grows (hinv : Inv s) (h : Grows s s') {op : OperationId}
    (hrow : s.retryOperations.get op = some row) : ∃ parent run,
    s'.central.runs.get row.parentRunId = some parent ∧
    s'.central.runs.get row.retryRunId = some run ∧ run.taskId = parent.taskId ∧
    run.retryOfRunId = some parent.runId ∧ parent.attemptNumber < run.attemptNumber ∧
    parent.state.terminal = true ∧ (parent.state = .outcomeUnknown →
      ∃ acknowledgement, s'.acknowledgements.get row.parentRunId = some acknowledgement) := by
  obtain ⟨parent, run, hparent, hrun, htask, hretryOf, hlt, hend, hacknowledged⟩ :=
    hinv.retried op row hrow
  obtain ⟨parent', hparent', hkept⟩ := h.runs _ _ hparent
  obtain ⟨run', hrun', hkept'⟩ := h.runs _ _ hrun
  have hstate := hkept.state hend
  refine ⟨parent', run', hparent', hrun', ?_, ?_, ?_, ?_, fun hunknown => ?_⟩
  · rw [hkept'.taskId, hkept.taskId, htask]
  · rw [hkept'.retryOfRunId, hkept.runId, hretryOf]
  · rw [hkept'.attemptNumber, hkept.attemptNumber]
    exact hlt
  · rw [hstate]
    exact hend
  · obtain ⟨acknowledgement, hget⟩ := hacknowledged (hstate ▸ hunknown)
    exact ⟨acknowledgement, h.acknowledgements _ _ hget⟩

theorem Inv.acknowledged_grows (hinv : Inv s) (h : Grows s s') {row : AmbiguityAcknowledgement}
    (hrow : s.acknowledgements.get runId = some row) :
    row.runId = runId ∧
      ∃ run, s'.central.runs.get runId = some run ∧ run.state = .outcomeUnknown := by
  obtain ⟨hkey, run, hrun, hstate⟩ := hinv.acknowledged runId row hrow
  obtain ⟨run', hrun', hkept⟩ := h.runs _ _ hrun
  exact ⟨hkey, run', hrun', (hkept.state (by rw [hstate]; rfl)).trans hstate⟩

theorem Inv.numbered_grows (hinv : Inv s) (h : Grows s s') {op op' : OperationId}
    {row' : RetryOperation} {run' : RunRecord} (hne : op ≠ op')
    (hrow : s.retryOperations.get op = some row) (hrow' : s.retryOperations.get op' = some row')
    (hrun : s'.central.runs.get row.retryRunId = some run)
    (hrun' : s'.central.runs.get row'.retryRunId = some run') (htask : run.taskId = run'.taskId) :
    run.attemptNumber ≠ run'.attemptNumber := by
  obtain ⟨-, old, -, hold, -⟩ := hinv.retried op row hrow
  obtain ⟨-, old', -, hold', -⟩ := hinv.retried op' row' hrow'
  have hkept := h.run_eq hold hrun
  have hkept' := h.run_eq hold' hrun'
  rw [hkept.attemptNumber, hkept'.attemptNumber]
  refine hinv.numbered op op' row row' old old' hne hrow hrow' hold hold' ?_
  rw [← hkept.taskId, ← hkept'.taskId, htask]

theorem Inv.elsewhere (hinv : Inv s) (h : Grows s s') (hkeyed : Keyed s'.central)
    (hops : s'.retryOperations = s.retryOperations)
    (hacks : s'.acknowledgements = s.acknowledgements) : Inv s' where
  keyed := hkeyed
  acknowledged _ _ hrow := hinv.acknowledged_grows h (hacks ▸ hrow)
  operations runId runId' row row' hrow hrow' :=
    hinv.operations runId runId' row row' (hacks ▸ hrow) (hacks ▸ hrow')
  retried _ _ hrow := hinv.retried_grows h (hops ▸ hrow)
  numbered _ _ _ _ _ _ hne hrow hrow' :=
    hinv.numbered_grows h hne (hops ▸ hrow) (hops ▸ hrow')

theorem acknowledge_step (input : AcknowledgeInput) (hinv : Inv s) :
    Inv (acknowledgeAmbiguity input s).2 ∧ Grows s (acknowledgeAmbiguity input s).2 := by
  obtain ⟨e, h⟩ | ⟨operation, -, -, h⟩ |
    ⟨run, s', hnone, hget, hstate, hfree, hcentral, hops, hacks,
    h⟩ := acknowledgeAmbiguity_cases input s
  · rw [h]
    exact ⟨hinv, .refl s⟩
  · rw [h]
    exact ⟨hinv, .refl s⟩
  · rw [h]
    dsimp only
    have hfresh := acknowledgementOf_eq_none.mp hnone
    -- one row is new, under a Run that had none
    have hrows : ∀ runId row, s'.acknowledgements.get runId = some row →
        (runId = input.runId ∧ row = input.row run.taskId) ∨
          (runId ≠ input.runId ∧ s.acknowledgements.get runId = some row) := by
      intro runId row hrow
      rw [hacks, Table.get_put] at hrow
      split at hrow
      · next heq => exact .inl ⟨heq, (Option.some.inj hrow).symm⟩
      · next hne => exact .inr ⟨hne, hrow⟩
    have hgrows : Grows s s' := by
      refine ⟨hcentral ▸ runsKept_refl _, fun op row hrow => hops ▸ hrow, fun runId row hrow => ?_⟩
      have hne : runId ≠ input.runId := by
        rintro rfl
        rw [hfree] at hrow
        cases hrow
      rw [hacks, Table.get_put_ne _ _ hne, hrow]
    refine ⟨⟨hcentral ▸ hinv.keyed, ?_, ?_, ?_, ?_⟩, hgrows⟩
    · intro runId row hrow
      obtain ⟨rfl, rfl⟩ | ⟨-, hold⟩ := hrows runId row hrow
      · exact ⟨rfl, run, hcentral ▸ hget, hstate⟩
      · exact hinv.acknowledged_grows hgrows hold
    · intro runId runId' row row' hrow hrow' hsame
      obtain ⟨rfl, rfl⟩ | ⟨-, hold⟩ := hrows runId row hrow <;>
        obtain ⟨rfl, rfl⟩ | ⟨-, hold'⟩ := hrows runId' row' hrow'
      · rfl
      · exact absurd hsame.symm (hfresh runId' row' hold')
      · exact absurd hsame (hfresh runId row hold)
      · exact hinv.operations runId runId' row row' hold hold' hsame
    · intro op row hrow
      exact hinv.retried_grows hgrows (hops ▸ hrow)
    · intro op op' row row' run₁ run₂ hne hrow hrow'
      exact hinv.numbered_grows hgrows hne (hops ▸ hrow) (hops ▸ hrow')

theorem Retried.grows (h : Retried input parent run s s')
    (hnone : s.retryOperations.get input.operationId = none) :
    Grows s s' := by
  refine ⟨runsKept_put h.fresh h.runs, fun op row hrow => ?_, fun runId row hrow =>
    h.acknowledgements ▸ hrow⟩
  have hne : op ≠ input.operationId := by
    rintro rfl
    rw [hnone] at hrow
    cases hrow
  rw [h.retryOperations, Table.get_put_ne _ _ hne, hrow]

theorem Retried.above (h : Retried input parent run s s') {other : RunRecord}
    (hget : s.central.runs.get id = some other) (htask : other.taskId = run.taskId) :
    other.attemptNumber < run.attemptNumber := by
  rw [h.attemptNumber, ← h.taskId, ← htask]
  exact attempt_lt_next hget

theorem Retried.inv (h : Retried input parent run s s') (hinv : Inv s)
    (hnone : s.retryOperations.get input.operationId = none) (hparent : Retryable s input parent) :
    Inv s' := by
  have hgrows := h.grows hnone
  have hid : parent.runId = input.parentRunId := hinv.keyed _ _ hparent.get
  have hrows : ∀ op row, s'.retryOperations.get op = some row →
      (op = input.operationId ∧ row = input.row run.runId) ∨
        s.retryOperations.get op = some row := by
    intro op row hrow
    rw [h.retryOperations, Table.get_put] at hrow
    split at hrow
    · next heq => exact .inl ⟨heq, (Option.some.inj hrow).symm⟩
    · exact .inr hrow
  have hnew : s'.central.runs.get run.runId = some run := by rw [h.runs, Table.get_put_self]
  -- an older retry of the Task has a smaller number
  have hbelow : ∀ op row old, s.retryOperations.get op = some row →
      s'.central.runs.get row.retryRunId = some old → old.taskId = run.taskId →
        old.attemptNumber < run.attemptNumber := by
    intro op row old hrow hold htask
    obtain ⟨-, before, -, hbefore, -⟩ := hinv.retried op row hrow
    have hkept := hgrows.run_eq hbefore hold
    rw [hkept.attemptNumber]
    exact h.above hbefore (hkept.taskId ▸ htask)
  constructor
  · intro id other hget
    rw [h.runs, Table.get_put] at hget
    split at hget
    · next heq => rw [← Option.some.inj hget, heq]
    · exact hinv.keyed id other hget
  · intro runId row hrow
    exact hinv.acknowledged_grows hgrows (h.acknowledgements ▸ hrow)
  · intro runId runId' row row' hrow hrow'
    exact hinv.operations runId runId' row row' (h.acknowledgements ▸ hrow)
      (h.acknowledgements ▸ hrow')
  · intro op row hrow
    obtain ⟨rfl, rfl⟩ | hold := hrows op row hrow
    · obtain ⟨parent', hget', hkept⟩ := hgrows.runs _ _ hparent.get
      have hne : input.parentRunId ≠ run.runId := by
        intro heq
        have hfresh := h.fresh
        rw [← heq, hparent.get] at hfresh
        cases hfresh
      obtain rfl : parent = parent' := by
        rw [h.runs, Table.get_put_ne _ _ hne, hparent.get] at hget'
        exact Option.some.inj hget'
      refine ⟨parent, run, hget', hnew, h.taskId, h.retryOfRunId,
        h.above hparent.get h.taskId.symm, hparent.ended, fun hunknown => ?_⟩
      obtain ⟨acknowledgement, hacknowledged⟩ := hparent.acknowledged hunknown
      refine ⟨acknowledgement, ?_⟩
      rw [h.acknowledgements]
      change s.acknowledgements.get input.parentRunId = some acknowledgement
      rw [← hid, hacknowledged]
    · exact hinv.retried_grows hgrows hold
  · intro op op' row row' a b hne hrow hrow' ha hb htask
    obtain ⟨rfl, rfl⟩ | hold := hrows op row hrow <;>
      obtain ⟨rfl, rfl⟩ | hold' := hrows op' row' hrow'
    · exact absurd rfl hne
    · obtain rfl := Option.mem_unique hnew ha
      exact (hbelow op' row' b hold' hb htask.symm).ne'
    · obtain rfl := Option.mem_unique hnew hb
      exact (hbelow op row a hold ha htask).ne
    · exact hinv.numbered_grows hgrows hne hold hold' ha hb htask

theorem retry_step (services : Services) (input : RetryInput) (hinv : Inv s) :
    Inv (createRetry services input s).2 ∧ Grows s (createRetry services input s).2 := by
  obtain ⟨e, h⟩ | ⟨replay, -, -, h⟩ | ⟨parent, run, s', hnone, hparent, hretried, h⟩ :=
    createRetry_cases services input s
  · rw [h]
    exact ⟨hinv, .refl s⟩
  · rw [h]
    exact ⟨hinv, .refl s⟩
  · rw [h]
    exact ⟨hretried.inv hinv hnone hparent, hretried.grows hnone⟩

/-- Every step keeps the invariant, and what later states keep. -/
theorem inv_step {i : LineageStep} (hinv : Inv s) (h : (lineage services).step i s s') :
    Inv s' ∧ Grows s s' := by
  cases i with
  | acknowledge input =>
    obtain rfl : s' = _ := h
    exact acknowledge_step input hinv
  | retry input =>
    obtain rfl : s' = _ := h
    exact retry_step services input hinv
  | elsewhere label =>
    obtain ⟨hcentral, hops, hacks⟩ := h
    have hgrows : Grows s s' := ⟨runsKept_moves (step_moves hinv.keyed hcentral),
      fun op row hrow => hops ▸ hrow, fun runId row hrow => hacks ▸ hrow⟩
    exact ⟨hinv.elsewhere hgrows
      (step_preserves (fun _ _ _ => keyed_move) hinv.keyed hcentral hinv.keyed) hops hacks, hgrows⟩

theorem inv_reachable (h : (lineage services).Reachable s) : Inv s := by
  refine System.invariant Inv ?_ (fun i a b hs ha => (inv_step ha hs).1) h
  rintro s ⟨hcentral, hops, hacks⟩
  refine ⟨keyed_reachable (System.reachable_init hcentral), ?_, ?_, ?_, ?_⟩
  · intro runId row hrow
    rw [hacks] at hrow
    cases hrow
  · intro runId runId' row row' hrow
    rw [hacks] at hrow
    cases hrow
  · intro op row hrow
    rw [hops] at hrow
    cases hrow
  · intro op op' row row' run run' hne hrow
    rw [hops] at hrow
    cases hrow

theorem grows_steps (h : (lineage services).Reachable s) (hs : (lineage services).Steps s s') :
    Grows s s' :=
  System.along_run Grows.refl (fun _ _ _ => Grows.trans)
    (fun _ _ _ ha hstep => (inv_step (inv_reachable ha) hstep).2) h hs

/-! ## The law -/

/-- A request made the second Run a retry of the first. -/
def Retries (s : Lineage) (parentRunId retryRunId : RunId) : Prop :=
  ∃ op row, s.retryOperations.get op = some row ∧ row.parentRunId = parentRunId ∧
    row.retryRunId = retryRunId

/-- **A lineage**: the retries of a Run, their retries, and so on. -/
def Descends (s : Lineage) : RunId → RunId → Prop := Relation.TransGen s.Retries

theorem Inv.retries (hinv : Inv s) {p r : RunId} (h : s.Retries p r) : ∃ parent run,
    s.central.runs.get p = some parent ∧ s.central.runs.get r = some run ∧
    run.taskId = parent.taskId ∧ parent.attemptNumber < run.attemptNumber := by
  obtain ⟨op, row, hrow, rfl, rfl⟩ := h
  obtain ⟨parent, run, hparent, hrun, htask, -, hlt, -⟩ := hinv.retried op row hrow
  exact ⟨parent, run, hparent, hrun, htask, hlt⟩

/-- The Runs of a lineage are of one Task, and the last of them is a retry. -/
theorem Inv.descends (hinv : Inv s) {root r : RunId} (h : s.Descends root r) :
    (∃ op row, s.retryOperations.get op = some row ∧ row.retryRunId = r) ∧ ∃ source run,
      s.central.runs.get root = some source ∧ s.central.runs.get r = some run ∧
      run.taskId = source.taskId ∧ source.attemptNumber < run.attemptNumber := by
  induction h with
  | single h =>
    obtain ⟨op, row, hrow, -, hretry⟩ := id h
    exact ⟨⟨op, row, hrow, hretry⟩, hinv.retries h⟩
  | tail _ hlast ih =>
    obtain ⟨op, row, hrow, -, hretry⟩ := id hlast
    obtain ⟨-, source, between, hsource, hbetween, htask, hlt⟩ := ih
    obtain ⟨parent, run, hparent, hrun, htask', hlt'⟩ := hinv.retries hlast
    obtain rfl := Option.mem_unique hbetween hparent
    exact ⟨⟨op, row, hrow, hretry⟩, source, run, hsource, hrun, htask'.trans htask,
      hlt.trans hlt'⟩

/-- **What holds of retries in a reachable state**, whatever was requested before. -/
structure RetryLaw (services : Services) (s : Lineage) : Prop where
  /-- A Run whose outcome is unknown is retried only after it was acknowledged: the request finds
  the acknowledgement. -/
  ambiguous : ∀ input run s', createRetry services input s = (.ok (some run), s') →
    s.retryOperations.get input.operationId = none → ∃ parent,
      Retryable s input parent ∧ Retried input parent run s s'
  /-- So no Run whose outcome is unknown has a retry and no acknowledgement. -/
  acknowledged : ∀ p r parent, s.Retries p r → s.central.runs.get p = some parent →
    parent.state = .outcomeUnknown →
      ∃ acknowledgement, s.acknowledgements.get p = some acknowledgement
  /-- A request that returns, returns a Run. -/
  answered : ∀ input answer s', createRetry services input s = (.ok answer, s') →
    ∃ run, answer = some run
  /-- A repeat, at any later time, returns the same Run and changes nothing. -/
  repeats : ∀ input again run s₁ s₂, createRetry services input s = (.ok (some run), s₁) →
    (lineage services).Steps s₁ s₂ → again.operationId = input.operationId →
    again.parentRunId = input.parentRunId → ∃ run', run'.runId = run.runId ∧
      createRetry services again s₂ = (.ok (some run'), s₂)
  /-- So does a repeated acknowledgement. -/
  repeatsAcknowledgement : ∀ input again row s₁ s₂,
    acknowledgeAmbiguity input s = (.ok (some row), s₁) → (lineage services).Steps s₁ s₂ →
    again.operationId = input.operationId → again.runId = input.runId →
      acknowledgeAmbiguity again s₂ = (.ok (some row), s₂)
  /-- A retry has a larger attempt number than what it descends from. -/
  larger : ∀ root r, s.Descends root r → ∃ source run, s.central.runs.get root = some source ∧
    s.central.runs.get r = some run ∧ source.attemptNumber < run.attemptNumber
  /-- The retries of one lineage have different attempt numbers. -/
  distinct : ∀ root r r' run run', s.Descends root r → s.Descends root r' →
    s.central.runs.get r = some run → s.central.runs.get r' = some run' → r ≠ r' →
      run.attemptNumber ≠ run'.attemptNumber
  /-- A request that is rejected leaves everything as it was. -/
  rejected : ∀ input e s', createRetry services input s = (.error e, s') → s' = s
  rejectedAcknowledgement : ∀ input e s', acknowledgeAmbiguity input s = (.error e, s') → s' = s

/-- **The retry law.** -/
theorem retry_law (h : (lineage services).Reachable s) : RetryLaw services s := by
  have hinv := inv_reachable h
  constructor
  · intro input run s' hreturns hnone
    obtain ⟨e, heq⟩ | ⟨replay, hknown, -, -⟩ | ⟨parent, run', s'', -, hparent, hretried, heq⟩ :=
      createRetry_cases services input s
    · rw [heq] at hreturns
      cases (Prod.mk.inj hreturns).1
    · rw [hknown] at hnone
      cases hnone
    · rw [heq] at hreturns
      obtain ⟨hres, rfl⟩ := Prod.mk.inj hreturns
      obtain rfl := Option.some.inj (Except.ok.inj hres)
      exact ⟨parent, hparent, hretried⟩
  · rintro p r parent ⟨op, row, hrow, rfl, rfl⟩ hparent hunknown
    obtain ⟨parent', -, hparent', -, -, -, -, -, hacknowledged⟩ := hinv.retried op row hrow
    obtain rfl := Option.mem_unique hparent hparent'
    exact hacknowledged hunknown
  · intro input answer s' hreturns
    obtain ⟨e, heq⟩ | ⟨replay, hknown, -, heq⟩ | ⟨parent, run, s'', -, -, -, heq⟩ :=
      createRetry_cases services input s
    · rw [heq] at hreturns
      cases (Prod.mk.inj hreturns).1
    · obtain ⟨-, run, -, hrun, -⟩ := hinv.retried _ _ hknown
      rw [heq, hrun] at hreturns
      exact ⟨run, (Except.ok.inj (Prod.mk.inj hreturns).1).symm⟩
    · rw [heq] at hreturns
      exact ⟨run, (Except.ok.inj (Prod.mk.inj hreturns).1).symm⟩
  · intro input again run s₁ s₂ hreturns hsteps hop hparent
    have hs₁ : (lineage services).Reachable s₁ :=
      System.reachable_step h (i := .retry input) (congrArg Prod.snd hreturns).symm
    -- the request has its row in `s₁`
    obtain ⟨row, hrow, hrowParent, hrowRun⟩ : ∃ row,
        s₁.retryOperations.get input.operationId = some row ∧
          row.parentRunId = input.parentRunId ∧ row.retryRunId = run.runId := by
      obtain ⟨e, heq⟩ | ⟨replay, hknown, hsame, heq⟩ |
        ⟨parent, run', s', -, -, hretried, heq⟩ := createRetry_cases services input s
      · rw [heq] at hreturns
        cases (Prod.mk.inj hreturns).1
      · rw [heq] at hreturns
        obtain ⟨hres, rfl⟩ := Prod.mk.inj hreturns
        exact ⟨replay, hknown, hsame, (hinv.keyed _ _ (Except.ok.inj hres)).symm⟩
      · rw [heq] at hreturns
        obtain ⟨hres, rfl⟩ := Prod.mk.inj hreturns
        obtain rfl := Option.some.inj (Except.ok.inj hres)
        exact ⟨_, by rw [hretried.retryOperations, Table.get_put_self], rfl, rfl⟩
    have hrow₂ := (grows_steps hs₁ hsteps).retryOperations _ _ hrow
    have hinv₂ := inv_reachable (System.reachable_steps hs₁ hsteps)
    obtain ⟨-, run', -, hrun', -⟩ := hinv₂.retried _ _ hrow₂
    refine ⟨run', (hinv₂.keyed _ _ hrun').trans hrowRun, ?_⟩
    rw [createRetry_replay (hop ▸ hrow₂) (hrowParent.trans hparent.symm), hrun']
  · intro input again row s₁ s₂ hreturns hsteps hop hrun
    have hs₁ : (lineage services).Reachable s₁ :=
      System.reachable_step h (i := .acknowledge input) (congrArg Prod.snd hreturns).symm
    obtain ⟨hrow, hsame⟩ : s₁.acknowledgements.get input.runId = some row ∧
        row.operationId = input.operationId := by
      obtain ⟨e, heq⟩ | ⟨operation, hknown, hsame, heq⟩ |
        ⟨run, s', -, -, -, -, -, -, hacks, heq⟩ := acknowledgeAmbiguity_cases input s
      · rw [heq] at hreturns
        cases (Prod.mk.inj hreturns).1
      · rw [heq] at hreturns
        obtain ⟨hres, rfl⟩ := Prod.mk.inj hreturns
        refine ⟨Except.ok.inj hres, ?_⟩
        have hfound := List.find?_some hknown
        obtain ⟨runId, hget⟩ := Table.mem_rows.mp (List.mem_of_find?_eq_some hknown)
        obtain ⟨hkey, -⟩ := hinv.acknowledged _ _ hget
        rw [← hkey, hsame, Except.ok.inj hres] at hget
        rw [Option.some.inj hget]
        exact of_decide_eq_true hfound
      · rw [heq] at hreturns
        obtain ⟨hres, rfl⟩ := Prod.mk.inj hreturns
        obtain rfl := Option.some.inj (Except.ok.inj hres)
        exact ⟨by rw [hacks, Table.get_put_self], rfl⟩
    have hrow₂ := (grows_steps hs₁ hsteps).acknowledgements _ _ hrow
    have hinv₂ := inv_reachable (System.reachable_steps hs₁ hsteps)
    cases hknown : s₂.acknowledgementOf again.operationId with
    | none =>
      exact absurd (hsame.trans hop.symm) (acknowledgementOf_eq_none.mp hknown _ _ hrow₂)
    | some operation =>
      have hfound := List.find?_some hknown
      obtain ⟨runId, hget⟩ := Table.mem_rows.mp (List.mem_of_find?_eq_some hknown)
      obtain rfl := hinv₂.operations _ _ _ _ hget hrow₂
        (by rw [of_decide_eq_true hfound, hop, hsame])
      obtain ⟨hkey, -⟩ := hinv₂.acknowledged _ _ hget
      rw [acknowledgeAmbiguity_replay hknown (hkey.trans hrun.symm), hrun, hrow₂]
  · intro root r hdescends
    obtain ⟨-, source, run, hsource, hrun, -, hlt⟩ := hinv.descends hdescends
    exact ⟨source, run, hsource, hrun, hlt⟩
  · intro root r r' run run' hr hr' hget hget' hne
    obtain ⟨⟨op, row, hrow, rfl⟩, source, a, hsource, ha, htask, -⟩ := hinv.descends hr
    obtain ⟨⟨op', row', hrow', rfl⟩, source', b, hsource', hb, htask', -⟩ := hinv.descends hr'
    obtain rfl := Option.mem_unique ha hget
    obtain rfl := Option.mem_unique hb hget'
    obtain rfl := Option.mem_unique hsource hsource'
    refine hinv.numbered op op' row row' a b ?_ hrow hrow' ha hb (htask.trans htask'.symm)
    rintro rfl
    exact hne (congrArg RetryOperation.retryRunId (Option.mem_unique hrow hrow'))
  · intro input e s' herror
    obtain ⟨e', heq⟩ | ⟨replay, -, -, heq⟩ | ⟨parent, run, s'', -, -, -, heq⟩ :=
      createRetry_cases services input s
    · exact (congrArg Prod.snd (heq.symm.trans herror)).symm
    · cases (Prod.mk.inj (heq.symm.trans herror)).1
    · cases (Prod.mk.inj (heq.symm.trans herror)).1
  · intro input e s' herror
    obtain ⟨e', heq⟩ | ⟨operation, -, -, heq⟩ | ⟨run, s'', -, -, -, -, -, -, -, heq⟩ :=
      acknowledgeAmbiguity_cases input s
    · exact (congrArg Prod.snd (heq.symm.trans herror)).symm
    · cases (Prod.mk.inj (heq.symm.trans herror)).1
    · cases (Prod.mk.inj (heq.symm.trans herror)).1

/-! ## A retry -/

theorem reachable_elsewhere (h : (lineage services).Reachable s)
    (hs : (AgentRoom.central services).Steps s.central db) :
    (lineage services).Reachable { s with central := db } := by
  induction hs with
  | refl => exact h
  | tail _ hlast ih =>
    obtain ⟨label, hlast⟩ := hlast
    exact System.reachable_step ih (i := .elsewhere label) ⟨hlast, rfl, rfl⟩

def sampleTask : RetryTask where
  roomId := 1
  taskRevision := 1
  lifecycleState := .active
  schedulingEnabled := true
  maxRunAttempts := 5
  budgetRunAttempts := 1
  maxExecutionDurationSeconds := 3600
  budgetExecutionDurationSeconds := 0
  isDefault := true
  governed := false
  updatedAt := 0

def sampleLineage : Lineage where
  central := oneAgent
  tasks := Table.empty.put 1 sampleTask
  assignments := []
  members := [1]
  retryOperations := .empty
  acknowledgements := .empty

/-- The Run was sent, and nothing is known of it. -/
def sampleUnknown : Lineage :=
  { sampleLineage with
    central := oneAgent.after plainServices
      [(online, .createRuns [plainRequest 1 1000]),
       (online, .transition ⟨1, { sequence := 1, status := .outcomeUnknown }, nofun⟩ 20)] }

def sampleAcknowledgement : AcknowledgeInput := ⟨1, "op_ack00001", 1, 1, "lost", 30⟩

def sampleRetry : RetryInput := ⟨1, "op_retry0001", 2, 1, 40, 2000⟩

def sampleAcknowledged : Lineage := (acknowledgeAmbiguity sampleAcknowledgement sampleUnknown).2

def sampleRetried : Lineage := (createRetry plainServices sampleRetry sampleAcknowledged).2

theorem retry_law_sample : RetryLaw plainServices sampleRetried ∧
    ∃ run, (createRetry plainServices sampleRetry sampleAcknowledged).1 = .ok (some run) ∧
      run.retryOfRunId = some 1 ∧ run.attemptNumber = 2 := by
  have hunknown : (lineage plainServices).Reachable sampleUnknown :=
    reachable_elsewhere (System.reachable_init ⟨oneAgent_init plainServices, rfl, rfl⟩)
      (steps_after _ _)
  have hacknowledged : (lineage plainServices).Reachable sampleAcknowledged :=
    System.reachable_step hunknown (i := .acknowledge sampleAcknowledgement) rfl
  have hretried : (lineage plainServices).Reachable sampleRetried :=
    System.reachable_step hacknowledged (i := .retry sampleRetry) rfl
  exact ⟨retry_law hretried, _, rfl, rfl, rfl⟩

end Lineage

end AgentRoom
