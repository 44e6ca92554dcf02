import AgentRoom.Results.Store

/-!
# The calls on Results and Tasks

Each call, inverted: one that returned found its operation among the rows and wrote nothing, or it
passed its checks and wrote its rows, with the revision of one Task raised by one. One that throws
writes nothing.
-/

namespace AgentRoom.Results

open Tx

/-! ## Reading off checks -/

section Reading

variable {α β : Type} {c : Prop} [Decidable c] {e : Err} {o : Option α} {db db' : ResultDb} {b : β}
  {f : α → ResultTx β} {g : Unit → ResultTx β}

theorem of_require (h : (require c e >>= g) db = (.ok b, db')) : c ∧ g () db = (.ok b, db') := by
  unfold require at h
  split at h
  · next hc => exact ⟨hc, h⟩
  · cases h

theorem of_demand (h : (demand o e >>= f) db = (.ok b, db')) :
    ∃ a, o = some a ∧ f a db = (.ok b, db') := by
  cases o with
  | none => cases h
  | some a => exact ⟨a, rfl, h⟩

end Reading

section Running

variable {α : Type} {c : Prop} [Decidable c] {e : Err} {db : ResultDb}

theorem require_ok (h : c) : require c e db = (.ok (), db) := by
  unfold require
  rw [if_pos h]
  rfl

end Running

variable {host : ResultHost} {db db' : ResultDb}

/-! ## What each write does -/

/-- `db'` has the Tasks of `db`, with the revision of one of them raised by one. -/
def Advances (taskId : TaskId) (db db' : ResultDb) : Prop :=
  ∃ task task', db.tasks.get taskId = some task ∧ db'.tasks = db.tasks.put taskId task' ∧
    task'.taskRevision = task.taskRevision + 1

/-- The tables beside the Tasks are the same. -/
structure SameRows (db db' : ResultDb) : Prop where
  results : db'.results = db.results
  reviews : db'.reviews = db.reviews
  operations : db'.operations = db.operations
  acknowledgements : db'.acknowledgements = db.acknowledgements

theorem SameRows.refl (db : ResultDb) : SameRows db db := ⟨rfl, rfl, rfl, rfl⟩

theorem SameRows.trans {a b c : ResultDb} (h : SameRows a b) (h' : SameRows b c) :
    SameRows a c where
  results := h'.results.trans h.results
  reviews := h'.reviews.trans h.reviews
  operations := h'.operations.trans h.operations
  acknowledgements := h'.acknowledgements.trans h.acknowledgements

variable {taskId : TaskId} {change : TaskRow → TaskRow} {expected : Nat}

theorem of_advanceTask (h : advanceTask taskId expected change db = (.ok (), db')) :
    (∃ task, db.tasks.get taskId = some task ∧ task.taskRevision = expected) ∧
      Advances taskId db db' ∧ SameRows db db' := by
  have hread : (demand ((db.tasks.get taskId).filter (·.taskRevision = expected))
    "Task revision conflict" >>= fun task => _) db = (.ok (), db') := h
  obtain ⟨task, htask, hchecks⟩ := of_demand hread
  obtain ⟨-, hset⟩ := of_require hchecks
  obtain ⟨hget, hrevision⟩ := Option.filter_eq_some_iff.mp htask
  cases hset
  exact ⟨⟨task, hget, by simpa using hrevision⟩, ⟨task, _, hget, rfl, rfl⟩, ⟨rfl, rfl, rfl, rfl⟩⟩

/-- The rows of the Results after a proposal. -/
def proposedRows (db : ResultDb) (input : CreateInput) (resultId id : ResultId) :
    Option ResultRow :=
  if id = resultId then some (input.row resultId (db.nextVersion input.proposal.taskId))
  else if input.proposal.supersedesResultId = some id then
    (db.results.get id).map fun row => { row with state := .superseded }
  else db.results.get id

/-- **What a proposal writes.** -/
structure Proposed (db db' : ResultDb) (input : CreateInput) (resultId : ResultId) : Prop where
  unused : db.resultOfOperation input.proposal.operationId = none
  fresh : db.results.get resultId = none
  room : ∃ task, db.tasks.get input.proposal.taskId = some task ∧ task.roomId = input.roomId
  /-- What is replaced is a proposed or rejected Result of the same Task. -/
  replaced : ∀ id, input.proposal.supersedesResultId = some id → ∃ row,
    db.results.get id = some row ∧ row.proposal.taskId = input.proposal.taskId ∧
      (row.state = .proposed ∨ row.state = .rejected)
  rows : ∀ id, db'.results.get id = proposedRows db input resultId id
  reviews : db'.reviews = db.reviews
  operations : db'.operations = db.operations
  acknowledgements : db'.acknowledgements = db.acknowledgements
  advances : Advances input.proposal.taskId db db'

variable {input : CreateInput} {u : Unit}

theorem proposable_ok (h : proposable input db = (.ok u, db')) :
    db' = db ∧ ∃ task, db.tasks.get input.proposal.taskId = some task ∧
      task.roomId = input.roomId := by
  have hread : (demand ((db.tasks.get input.proposal.taskId).filter (·.roomId = input.roomId))
    "Result Task is unavailable" >>= fun task => _) db = (.ok u, db') := h
  obtain ⟨task, htask, hchecks⟩ := of_demand hread
  obtain ⟨-, h₁⟩ := of_require hchecks
  obtain ⟨-, h₂⟩ := of_require h₁
  obtain ⟨hget, hroom⟩ := Option.filter_eq_some_iff.mp htask
  unfold require at h₂
  split at h₂
  · cases h₂
    exact ⟨rfl, task, hget, by simpa using hroom⟩
  · cases h₂

theorem replaceable {roomId : RoomId} {proposal : ResultProposal} {id : ResultId}
    (h : supersedable db roomId proposal = true) (hid : proposal.supersedesResultId = some id) :
    ∃ row, db.results.get id = some row ∧ row.proposal.taskId = proposal.taskId ∧
      (row.state = .proposed ∨ row.state = .rejected) := by
  unfold supersedable at h
  rw [hid] at h
  dsimp only at h
  rw [Bool.and_eq_true, Option.any_eq_true] at h
  obtain ⟨⟨row, hrow, hstate⟩, -⟩ := h
  simp only [Bool.and_eq_true, Bool.or_eq_true, decide_eq_true_eq] at hstate
  exact ⟨row, hrow, hstate.1.1, hstate.2⟩

variable {resultId : ResultId}

theorem insertResult_ok (h : insertResult host input db = (.ok resultId, db')) :
    db.results.get resultId = none ∧ supersedable db input.roomId input.proposal = true ∧
      db' = { db with
        results := db.results.put resultId
          (input.row resultId (db.nextVersion input.proposal.taskId)) } := by
  have hread : (require (db.results.get host.createOpaqueId = none)
    "UNIQUE constraint failed: task_results.result_id" >>= fun _ => _) db =
      (.ok resultId, db') := h
  obtain ⟨hfresh, h₁⟩ := of_require hread
  obtain ⟨-, h₂⟩ := of_require h₁
  obtain ⟨hsupersedable, h₃⟩ := of_require h₂
  obtain ⟨-, hset⟩ := of_require h₃
  cases hset
  exact ⟨hfresh, hsupersedable, rfl⟩

/-- **What setting the state of a Result writes.** -/
structure StateSet (db db' : ResultDb) (resultId : ResultId) (state : ResultState) : Prop where
  rows : ∀ id, db'.results.get id =
    if id = resultId then (db.results.get id).map fun row => { row with state }
    else db.results.get id
  tasks : db'.tasks = db.tasks
  reviews : db'.reviews = db.reviews
  operations : db'.operations = db.operations
  acknowledgements : db'.acknowledgements = db.acknowledgements

theorem setResultState_ok {state : ResultState} {u : PUnit}
    (h : setResultState resultId state db = (.ok u, db')) : StateSet db db' resultId state := by
  have hset := (Prod.mk.inj h).2
  dsimp only at hset
  cases hrow : db.results.get resultId with
  | none =>
    rw [hrow] at hset
    have hsame : db = db' := hset
    subst hsame
    refine ⟨fun id => ?_, rfl, rfl, rfl, rfl⟩
    by_cases hid : id = resultId
    · rw [if_pos hid, hid, hrow, Option.map_none]
    · rw [if_neg hid]
  | some row =>
    rw [hrow] at hset
    have hput : { db with results := db.results.put resultId { row with state } } = db' := hset
    subst hput
    refine ⟨fun id => ?_, rfl, rfl, rfl, rfl⟩
    dsimp only
    rw [Table.get_put]
    by_cases hid : id = resultId
    · rw [if_pos hid, if_pos hid, hid, hrow, Option.map_some]
    · rw [if_neg hid, if_neg hid]

theorem supersede_ok (h : supersede resultId db = (.ok u, db')) :
    StateSet db db' resultId .superseded := by
  have hread : (require ((db.results.get resultId).any (fun row =>
    row.state = .proposed || row.state = .rejected) = true) "Result supersession conflict" >>=
      fun _ => setResultState resultId .superseded) db = (.ok u, db') := h
  exact setResultState_ok (of_require hread).2

/-- What a program does with a Result that it may replace. -/
theorem whenSome_supersede {supersedes : Option ResultId}
    (h : Tx.whenSome supersedes supersede db = (.ok u, db')) :
    (∀ id, db'.results.get id =
      if supersedes = some id then
        (db.results.get id).map fun row => { row with state := .superseded }
      else db.results.get id) ∧ db'.tasks = db.tasks ∧ db'.reviews = db.reviews ∧
        db'.operations = db.operations ∧ db'.acknowledgements = db.acknowledgements := by
  cases supersedes with
  | none =>
    cases h
    exact ⟨fun id => by rw [if_neg (by simp)], rfl, rfl, rfl, rfl⟩
  | some previousId =>
    have hset : StateSet db db' previousId .superseded := supersede_ok h
    refine ⟨fun id => ?_, hset.tasks, hset.reviews, hset.operations, hset.acknowledgements⟩
    rw [hset.rows]
    by_cases hid : id = previousId
    · rw [if_pos hid, if_pos (by rw [hid])]
    · rw [if_neg hid, if_neg (fun hsome => hid (Option.some.inj hsome).symm)]

/-- **A proposal that returned** found its operation, or wrote a Result and advanced its Task. -/
theorem createOnce_ok (h : createOnce host input db = (.ok resultId, db')) :
    (∃ row, db.resultOfOperation input.proposal.operationId = some row ∧
      row.proposal.taskId = input.proposal.taskId ∧ resultId = row.resultId ∧ db' = db) ∨
    Proposed db db' input resultId := by
  unfold createOnce at h
  rw [get_bind] at h
  cases hop : db.resultOfOperation input.proposal.operationId with
  | some row =>
    rw [hop] at h
    obtain ⟨htask, hret⟩ := of_require h
    cases hret
    exact .inl ⟨row, rfl, htask, rfl, rfl⟩
  | none =>
    rw [hop] at h
    obtain ⟨u, db₁, hproposable, h₁⟩ := ok_of_bind h
    obtain ⟨rfl, hroom⟩ := proposable_ok hproposable
    obtain ⟨id, db₂, hinsert, h₂⟩ := ok_of_bind h₁
    obtain ⟨hfresh, hsupersedable, hdb₂⟩ := insertResult_ok hinsert
    obtain ⟨u₂, db₃, hsupersede, h₃⟩ := ok_of_bind h₂
    obtain ⟨hrows, htasks, hreviews, hoperations, hacks⟩ := whenSome_supersede hsupersede
    obtain ⟨u₃, db₄, hadvance, hret⟩ := ok_of_bind h₃
    obtain ⟨-, hadvances, hsame⟩ := of_advanceTask hadvance
    cases hret
    subst hdb₂
    refine .inr ⟨hop, hfresh, hroom, fun id hid => replaceable hsupersedable hid, fun id => ?_,
      ?_, ?_, ?_, ?_⟩
    · rw [hsame.results, hrows]
      dsimp only
      rw [Table.get_put]
      unfold proposedRows
      by_cases hid : id = resultId
      · -- a Result never replaces itself: what it replaces is there before it
        have hself : input.proposal.supersedesResultId ≠ some id := by
          intro hsome
          obtain ⟨row, hrow, -⟩ := replaceable hsupersedable hsome
          rw [hid, hfresh] at hrow
          cases hrow
        rw [if_neg hself, if_pos hid, if_pos hid]
      · rw [if_neg hid, if_neg hid]
    · exact hsame.reviews.trans hreviews
    · exact hsame.operations.trans hoperations
    · exact hsame.acknowledgements.trans hacks
    · unfold Advances at hadvances ⊢
      rwa [htasks] at hadvances

/-- **What a review writes.** -/
structure Reviewed (db db' : ResultDb) (input : ReviewInput) (taskId : TaskId) : Prop where
  unused : db.reviewOfOperation input.command.operationId = none
  result : ∃ row, db.results.get input.resultId = some row ∧ row.state = .proposed ∧
    row.proposal.taskId = taskId
  unreviewed : db.reviews.get input.resultId = none
  rows : ∀ id, db'.results.get id =
    if id = input.resultId then
      (db.results.get id).map fun row => { row with state := input.command.decision.state }
    else db.results.get id
  reviews : db'.reviews = db.reviews.put input.resultId input.row
  operations : db'.operations = db.operations
  acknowledgements : db'.acknowledgements = db.acknowledgements
  advances : Advances taskId db db'

variable {result : ResultRow} {task : TaskRow}

theorem requireCompletable_state (h : requireCompletable host result task db = (.ok u, db')) :
    db' = db := by
  unfold requireCompletable at h
  rw [get_bind] at h
  obtain ⟨-, h₁⟩ := of_require h
  obtain ⟨-, h₂⟩ := of_require h₁
  obtain ⟨-, h₃⟩ := of_require h₂
  obtain ⟨-, h₄⟩ := of_require h₃
  obtain ⟨-, h₅⟩ := of_require h₄
  obtain ⟨-, h₆⟩ := of_require h₅
  unfold require at h₆
  split at h₆
  · cases h₆
    rfl
  · cases h₆

theorem reviewable_ok {input : ReviewInput} (h : reviewable host input db = (.ok result, db')) :
    db' = db ∧ db.results.get input.resultId = some result ∧ result.state = .proposed := by
  unfold reviewable at h
  obtain ⟨-, h₁⟩ := of_require h
  rw [get_bind] at h₁
  obtain ⟨row, hrow, h₂⟩ := of_demand h₁
  obtain ⟨task, -, h₃⟩ := of_demand h₂
  obtain ⟨-, h₄⟩ := of_require h₃
  obtain ⟨-, h₅⟩ := of_require h₄
  obtain ⟨-, h₆⟩ := of_require h₅
  obtain ⟨u, db₁, hwhen, hret⟩ := ok_of_bind h₆
  have hsame : db₁ = db := by
    unfold Tx.when at hwhen
    split at hwhen
    · exact requireCompletable_state hwhen
    · cases hwhen
      rfl
  obtain ⟨hget, hstate⟩ := Option.filter_eq_some_iff.mp hrow
  cases hret
  exact ⟨hsame, hget, by simpa using hstate⟩

theorem insertReview_ok {input : ReviewInput} (h : insertReview host input db = (.ok u, db')) :
    db.reviews.get input.resultId = none ∧
      db' = { db with reviews := db.reviews.put input.resultId input.row } := by
  unfold insertReview at h
  rw [get_bind] at h
  obtain ⟨-, h₁⟩ := of_require h
  obtain ⟨hnone, h₂⟩ := of_require h₁
  obtain ⟨-, hset⟩ := of_require h₂
  cases hset
  exact ⟨hnone, rfl⟩

/-- The answer of a review that was written by this call. -/
def ReviewInput.outcome (input : ReviewInput) (db : ResultDb) : ReviewOutcome where
  result := db.getResult input.resultId
  taskRevisionBefore := input.command.expectedTaskRevision
  taskRevisionAfter := input.command.expectedTaskRevision + 1
  completedTask := input.command.completeTask

/-- The answer of a review that was written before. -/
def ReviewRow.outcome (row : ReviewRow) (db : ResultDb) : ReviewOutcome where
  result := db.getResult row.resultId
  taskRevisionBefore := row.taskRevisionBefore
  taskRevisionAfter := row.taskRevisionAfter
  completedTask := row.completedTask

variable {outcome : ReviewOutcome}

/-- **A review that returned** found its operation, or wrote a review and advanced the Task. -/
theorem reviewOnce_ok {input : ReviewInput} (h : reviewOnce host input db = (.ok outcome, db')) :
    (∃ row, db.reviewOfOperation input.command.operationId = some row ∧
      row.resultId = input.resultId ∧ outcome = row.outcome db ∧ db' = db) ∨
    ∃ taskId, Reviewed db db' input taskId ∧ outcome = input.outcome db' := by
  unfold reviewOnce at h
  rw [get_bind] at h
  cases hop : db.reviewOfOperation input.command.operationId with
  | some row =>
    rw [hop] at h
    obtain ⟨hresult, hret⟩ := of_require h
    cases hret
    refine .inl ⟨row, rfl, hresult, ?_, rfl⟩
    unfold ReviewRow.outcome
    rw [hresult]
  | none =>
    rw [hop] at h
    obtain ⟨result, db₁, hreviewable, h₁⟩ := ok_of_bind h
    obtain ⟨rfl, hresult, hstate⟩ := reviewable_ok hreviewable
    obtain ⟨u, db₂, hinsert, h₂⟩ := ok_of_bind h₁
    obtain ⟨hnone, hdb₂⟩ := insertReview_ok hinsert
    obtain ⟨u₂, db₃, hset, h₃⟩ := ok_of_bind h₂
    have hstates := setResultState_ok hset
    obtain ⟨u₃, db₄, hadvance, hret⟩ := ok_of_bind h₃
    obtain ⟨-, hadvances, hsame⟩ := of_advanceTask hadvance
    rw [get_bind] at hret
    cases hret
    subst hdb₂
    refine .inr ⟨result.proposal.taskId, ⟨hop, ⟨result, hresult, hstate, rfl⟩, hnone,
      fun id => ?_, ?_, ?_, ?_, ?_⟩, rfl⟩
    · rw [hsame.results, hstates.rows]
    · exact hsame.reviews.trans hstates.reviews
    · exact hsame.operations.trans hstates.operations
    · exact hsame.acknowledgements.trans hstates.acknowledgements
    · unfold Advances at hadvances ⊢
      rwa [hstates.tasks] at hadvances

/-- **What a mutation of a Task writes.** -/
structure Mutated (db db' : ResultDb) (input : MutationInput) : Prop where
  unused : db.operations.get input.operationId = none
  results : db'.results = db.results
  reviews : db'.reviews = db.reviews
  acknowledgements : db'.acknowledgements = db.acknowledgements
  operations : ∃ row : TaskOperation, row.taskId = input.taskId ∧
    db'.operations = db.operations.put input.operationId row
  advances : Advances input.taskId db db'

/-- What a mutation writes beside the Task: rows that no Result is read from. -/
def Beside (beside : TaskRow → ResultTx Unit) : Prop :=
  ∀ task u db db', beside task db = (.ok u, db') → SameRows db db' ∧ db'.tasks = db.tasks

theorem beside_pure : Beside fun _ => pure () := by
  intro task u db db' h
  cases h
  exact ⟨.refl db, rfl⟩

variable {operationId : OperationId}

theorem isOperationReplay_ok {replay : Bool}
    (h : isOperationReplay operationId taskId db = (.ok replay, db')) :
    db' = db ∧
      ((replay = false ∧ db.operations.get operationId = none) ∨
        (replay = true ∧ ∃ row,
          db.operations.get operationId = some row ∧ row.taskId = taskId)) := by
  unfold isOperationReplay at h
  rw [get_bind] at h
  cases hop : db.operations.get operationId with
  | none =>
    rw [hop] at h
    cases h
    exact ⟨rfl, .inl ⟨rfl, rfl⟩⟩
  | some row =>
    rw [hop] at h
    obtain ⟨htask, hret⟩ := of_require h
    cases hret
    exact ⟨rfl, .inr ⟨rfl, row, rfl, htask⟩⟩

theorem requireRevision_ok (h : requireRevision taskId expected db = (.ok task, db')) :
    db' = db ∧ db.tasks.get taskId = some task ∧ task.taskRevision = expected := by
  unfold requireRevision at h
  rw [get_bind] at h
  obtain ⟨row, hrow, h₁⟩ := of_demand h
  obtain ⟨hrevision, hret⟩ := of_require h₁
  cases hret
  exact ⟨rfl, hrow, hrevision⟩

variable {now : Time}

theorem recordOperation_ok {revision : Nat}
    (h : recordOperation operationId taskId revision now db = (.ok u, db')) :
    db' = { db with operations := db.operations.put operationId ⟨taskId, revision, now⟩ } := by
  unfold recordOperation at h
  obtain ⟨-, h₁⟩ := of_require h
  rw [get_bind] at h₁
  obtain ⟨-, hset⟩ := of_require h₁
  cases hset
  rfl

variable {beside : TaskRow → ResultTx Unit}

/-- **A mutation that returned** found its operation, or advanced its Task. -/
theorem mutate_ok {input : MutationInput} (hbeside : Beside beside)
    (h : mutate host input beside change db = (.ok u, db')) :
    (∃ row, db.operations.get input.operationId = some row ∧ row.taskId = input.taskId ∧
      db' = db) ∨ Mutated db db' input := by
  obtain ⟨replay, db₁, hreplay, h₁⟩ := ok_of_bind (ok_of_immediate h)
  obtain ⟨rfl, ⟨rfl, hnone⟩ | ⟨rfl, row, hrow, htask⟩⟩ := isOperationReplay_ok hreplay
  · obtain ⟨task, db₂, hrevision, h₂⟩ := ok_of_bind h₁
    obtain ⟨rfl, -, -⟩ := requireRevision_ok hrevision
    obtain ⟨-, h₃⟩ := of_require h₂
    obtain ⟨u₃, db₃, hrows, h₄⟩ := ok_of_bind h₃
    obtain ⟨hsame, htasks⟩ := hbeside task u₃ _ db₃ hrows
    obtain ⟨u₄, db₄, hadvance, hrecord⟩ := ok_of_bind h₄
    obtain ⟨-, hadvances, hkept⟩ := of_advanceTask hadvance
    obtain rfl := recordOperation_ok hrecord
    have hall := hsame.trans hkept
    refine .inr ⟨hnone, hall.results, hall.reviews, hall.acknowledgements,
      ⟨⟨input.taskId, task.taskRevision + 1, input.now⟩, rfl, ?_⟩, ?_⟩
    · dsimp only
      rw [hall.operations]
    · unfold Advances at hadvances ⊢
      rwa [htasks] at hadvances
  · cases h₁
    exact .inl ⟨row, hrow, htask, rfl⟩

theorem beside_criteria (input : MutationInput) (definition : DefinitionInput) :
    Beside (insertCriteria input definition) := by
  intro task u db db' h
  unfold insertCriteria at h
  rw [get_bind] at h
  unfold Tx.when at h
  split at h
  · obtain ⟨-, hset⟩ := of_require h
    cases hset
    exact ⟨⟨rfl, rfl, rfl, rfl⟩, rfl⟩
  · cases h
    exact ⟨.refl db, rfl⟩

/-! ## Calls -/

/-- **What a caller asks of the repositories**, with the host as it then answers. -/
inductive Call where
  | create (host : ResultHost) (input : CreateInput)
  | review (host : ResultHost) (input : ReviewInput)
  | fenceRevision (host : ResultHost) (input : MutationInput)
  | updateDefinition (host : ResultHost) (input : MutationInput) (definition : DefinitionInput)
  | updateControl (host : ResultHost) (input : MutationInput)
      (lifecycleState : Option TaskLifecycle) (schedulingEnabled : Option Bool)
  | addBlock (host : ResultHost) (input : MutationInput) (reason : String) (memberId : MemberId)
  | resolveBlock (host : ResultHost) (input : MutationInput) (blockId : BlockId)
      (memberId : MemberId)
  | acknowledgeAmbiguity (host : ResultHost) (input : AcknowledgeInput)
  | update (host : ResultHost) (taskId : TaskId) (title goal : String)
      (lifecycleState : TaskLifecycle) (now : Time)

inductive Answer where
  | result (projection : Option ResultProjection)
  | reviewed (outcome : ReviewOutcome)
  | done

def Call.run : Call → ResultTx Answer
  | .create host input => do return .result (← Results.create host input)
  | .review host input => do return .reviewed (← Results.review host input)
  | .fenceRevision host input => do
      Results.fenceRevision host input
      return .done
  | .updateDefinition host input definition => do
      Results.updateDefinition host input definition
      return .done
  | .updateControl host input lifecycleState schedulingEnabled => do
      Results.updateControl host input lifecycleState schedulingEnabled
      return .done
  | .addBlock host input reason memberId => do
      Results.addBlock host input reason memberId
      return .done
  | .resolveBlock host input blockId memberId => do
      Results.resolveBlock host input blockId memberId
      return .done
  | .acknowledgeAmbiguity host input => do
      Results.acknowledgeAmbiguity host input
      return .done
  | .update host taskId title goal lifecycleState now => do
      Results.update host taskId title goal lifecycleState now
      return .done

/-- The operation of the call is among the rows. -/
def Call.replays (db : ResultDb) : Call → Prop
  | .create _ input => (db.resultOfOperation input.proposal.operationId).isSome
  | .review _ input => (db.reviewOfOperation input.command.operationId).isSome
  | .fenceRevision _ input | .updateDefinition _ input _ | .updateControl _ input _ _
  | .addBlock _ input _ _ | .resolveBlock _ input _ _ =>
    (db.operations.get input.operationId).isSome
  | .acknowledgeAmbiguity _ input => (db.acknowledgementOfOperation input.operationId).isSome
  | .update .. => False

def Call.subject (db : ResultDb) : Call → Option TaskId
  | .create _ input => some input.proposal.taskId
  | .review _ input => (db.results.get input.resultId).map (·.proposal.taskId)
  | .fenceRevision _ input | .updateDefinition _ input _ | .updateControl _ input _ _
  | .addBlock _ input _ _ | .resolveBlock _ input _ _ => some input.taskId
  | .acknowledgeAmbiguity host input => host.unknownRun input.runId
  | .update _ taskId .. => some taskId

/-- **What a call that returned wrote.** -/
inductive Wrote (db db' : ResultDb) : Prop where
  | proposed (input : CreateInput) (resultId : ResultId) (h : Proposed db db' input resultId)
  | reviewed (input : ReviewInput) (taskId : TaskId) (h : Reviewed db db' input taskId)
  | mutated (input : MutationInput) (h : Mutated db db' input)
  | acknowledged (row : AcknowledgementRow) (unused : db.acknowledgements.get row.runId = none)
      (acknowledgements : db'.acknowledgements = db.acknowledgements.put row.runId row)
      (results : db'.results = db.results) (reviews : db'.reviews = db.reviews)
      (operations : db'.operations = db.operations)
  | updated (h : SameRows db db')

/-- **One call that returned.** -/
def Settled (call : Call) (db db' : ResultDb) : Prop :=
  (call.replays db ∧ db' = db) ∨
  (¬ call.replays db ∧ Wrote db db' ∧ ∃ taskId, call.subject db = some taskId ∧
    Advances taskId db db')

theorem settled_create {projection : Option ResultProjection}
    (h : create host input db = (.ok projection, db')) : Settled (.create host input) db db' := by
  obtain ⟨resultId, db₁, honce, hget⟩ := ok_of_bind h
  cases hget
  obtain ⟨row, hrow, -, -, rfl⟩ | hproposed := createOnce_ok (ok_of_immediate honce)
  · exact .inl ⟨by simp only [Call.replays, hrow, Option.isSome_some], rfl⟩
  · refine .inr ⟨?_, .proposed input resultId hproposed, _, rfl, hproposed.advances⟩
    simp only [Call.replays, hproposed.unused, Option.isSome_none, Bool.false_eq_true,
      not_false_eq_true]

theorem settled_review {input : ReviewInput} (h : review host input db = (.ok outcome, db')) :
    Settled (.review host input) db db' := by
  obtain ⟨row, hrow, -, -, rfl⟩ | ⟨taskId, hreviewed, -⟩ := reviewOnce_ok (ok_of_immediate h)
  · exact .inl ⟨by simp only [Call.replays, hrow, Option.isSome_some], rfl⟩
  · obtain ⟨row, hrow, -, htask⟩ := hreviewed.result
    refine .inr ⟨?_, .reviewed input taskId hreviewed, taskId, ?_, hreviewed.advances⟩
    · simp only [Call.replays, hreviewed.unused, Option.isSome_none, Bool.false_eq_true,
        not_false_eq_true]
    · simp only [Call.subject, hrow, Option.map_some, htask]

variable {call : Call}

theorem settled_mutate {input : MutationInput}
    (hreplays : call.replays db ↔ (db.operations.get input.operationId).isSome)
    (hsubject : call.subject db = some input.taskId) (hbeside : Beside beside)
    (h : mutate host input beside change db = (.ok (), db')) : Settled call db db' := by
  obtain ⟨row, hrow, -, rfl⟩ | hmutated := mutate_ok hbeside h
  · exact .inl ⟨hreplays.mpr (by rw [hrow, Option.isSome_some]), rfl⟩
  · refine .inr ⟨fun hreplay => ?_, .mutated input hmutated, _, hsubject, hmutated.advances⟩
    have hsome := hreplays.mp hreplay
    rw [hmutated.unused] at hsome
    cases hsome

theorem beside_insertBlock (input : MutationInput) (reason : String) (memberId : MemberId) :
    Beside fun _ => insertBlock host input reason memberId := by
  intro task u db db' h
  have h₀ : insertBlock host input reason memberId db = (.ok u, db') := h
  unfold insertBlock at h₀
  rw [get_bind] at h₀
  obtain ⟨-, hset⟩ := of_require h₀
  cases hset
  exact ⟨⟨rfl, rfl, rfl, rfl⟩, rfl⟩

theorem beside_closeBlock (input : MutationInput) (blockId : BlockId) (memberId : MemberId) :
    Beside fun _ => closeBlock input blockId memberId := by
  intro task u db db' h
  have h₀ : closeBlock input blockId memberId db = (.ok u, db') := h
  unfold closeBlock at h₀
  rw [get_bind] at h₀
  obtain ⟨block, -, hset⟩ := of_demand h₀
  cases hset
  exact ⟨⟨rfl, rfl, rfl, rfl⟩, rfl⟩

theorem settled_acknowledge {input : AcknowledgeInput}
    (h : acknowledgeAmbiguity host input db = (.ok (), db')) :
    Settled (.acknowledgeAmbiguity host input) db db' := by
  have h₀ := ok_of_immediate h
  unfold acknowledgeOnce at h₀
  rw [get_bind] at h₀
  cases hop : db.acknowledgementOfOperation input.operationId with
  | some operation =>
    rw [hop] at h₀
    have hread : require (operation.runId = input.runId)
      "Ambiguity operation is bound to another Run" db = (.ok (), db') := h₀
    refine .inl ⟨by simp only [Call.replays, hop, Option.isSome_some], ?_⟩
    unfold require at hread
    split at hread
    · cases hread
      rfl
    · cases hread
  | none =>
    rw [hop] at h₀
    obtain ⟨taskId, htask, h₁⟩ := of_demand h₀
    obtain ⟨hunused, h₂⟩ := of_require h₁
    obtain ⟨u, db₁, hadvance, h₃⟩ := ok_of_bind h₂
    obtain ⟨-, hadvances, hsame⟩ := of_advanceTask hadvance
    obtain ⟨-, hset⟩ := of_require h₃
    cases hset
    refine .inr ⟨?_, ?_, taskId, htask, hadvances⟩
    · simp only [Call.replays, hop, Option.isSome_none, Bool.false_eq_true, not_false_eq_true]
    · refine .acknowledged
        ⟨input.runId, input.operationId, taskId, input.expectedTaskRevision,
          input.expectedTaskRevision + 1⟩ hunused ?_ hsame.results hsame.reviews hsame.operations
      dsimp only
      rw [hsame.acknowledgements]

theorem settled_update {title goal : String} {lifecycleState : TaskLifecycle}
    (h : update host taskId title goal lifecycleState now db = (.ok (), db')) :
    Settled (.update host taskId title goal lifecycleState now) db db' := by
  have h₀ := ok_of_immediate h
  rw [get_bind] at h₀
  obtain ⟨current, -, h₁⟩ := of_demand h₀
  obtain ⟨-, hadvance⟩ := of_require h₁
  obtain ⟨-, hadvances, hsame⟩ := of_advanceTask hadvance
  exact .inr ⟨id, .updated hsame, taskId, rfl, hadvances⟩

variable {α : Type} {x : ResultTx α} {k : α → Answer} {answer : Answer}

theorem of_answer (h : (x >>= fun a => pure (k a)) db = (.ok answer, db')) :
    ∃ a, x db = (.ok a, db') ∧ answer = k a := by
  obtain ⟨a, db₁, hx, hret⟩ := ok_of_bind h
  cases hret
  exact ⟨a, hx, rfl⟩

/-- **A call that returned** is a replay, which writes nothing, or advances the Task it is
about. -/
theorem Call.settled (h : call.run db = (.ok answer, db')) :
    Settled call db db' := by
  cases call with
  | create host input =>
    obtain ⟨_, hx, -⟩ := of_answer h
    exact settled_create hx
  | review host input =>
    obtain ⟨_, hx, -⟩ := of_answer h
    exact settled_review hx
  | fenceRevision host input =>
    obtain ⟨_, hx, -⟩ := of_answer h
    exact settled_mutate .rfl rfl beside_pure hx
  | updateDefinition host input definition =>
    obtain ⟨_, hx, -⟩ := of_answer h
    exact settled_mutate .rfl rfl (beside_criteria input definition) hx
  | updateControl host input lifecycleState schedulingEnabled =>
    obtain ⟨_, hx, -⟩ := of_answer h
    exact settled_mutate .rfl rfl beside_pure hx
  | addBlock host input reason memberId =>
    obtain ⟨_, hx, -⟩ := of_answer h
    exact settled_mutate .rfl rfl (beside_insertBlock input reason memberId) hx
  | resolveBlock host input blockId memberId =>
    obtain ⟨_, hx, -⟩ := of_answer h
    exact settled_mutate .rfl rfl (beside_closeBlock input blockId memberId) hx
  | acknowledgeAmbiguity host input =>
    obtain ⟨_, hx, -⟩ := of_answer h
    exact settled_acknowledge hx
  | update host taskId title goal lifecycleState now =>
    obtain ⟨_, hx, -⟩ := of_answer h
    exact settled_update hx

variable {e : Err}

theorem error_of_answer (h : (x >>= fun a => pure (k a)) db = (.error e, db')) :
    x db = (.error e, db') := by
  rcases hx : x db with ⟨e' | a, db₁⟩
  · rw [bind_error hx] at h
    cases h
    rfl
  · rw [bind_ok hx] at h
    cases h

/-- **A call that throws writes nothing.** -/
theorem Call.unchanged_of_error (h : call.run db = (.error e, db')) :
    db' = db := by
  cases call with
  | create host input =>
    have hx : Results.create host input db = (.error e, db') := error_of_answer h
    unfold Results.create at hx
    rcases immediate_cases (createOnce host input) db with ⟨e', he⟩ | ⟨id, db₁, -, hok⟩
    · rw [bind_error he] at hx
      cases hx
      rfl
    · rw [bind_ok hok] at hx
      cases hx
  | updateDefinition host input definition =>
    exact state_of_immediate_error (error_of_answer h)
  | _ => exact state_of_immediate_error (error_of_answer h)

end AgentRoom.Results
