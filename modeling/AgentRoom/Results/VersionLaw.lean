import AgentRoom.Results.Calls
import Mathlib.Data.List.Perm.Basic
import Mathlib.Data.List.Range
import Mathlib.Data.List.Nodup

/-!
# The versions of a Task's Results

Whatever is proposed, superseded, reviewed and changed, by anyone and with any expected revision,
the Results of a Task carry the versions `1 .. n`, and a call raises the revision of one Task by one
or writes nothing. What a repeated operation answers is read from the rows its first call wrote.
-/

namespace AgentRoom.Results

open Tx

variable {host : ResultHost} {db db' : ResultDb}

/-! ## The rows of the Results -/

/-- A row but for its state. -/
def ResultRow.fixed (row : ResultRow) : ResultRow := { row with state := .proposed }

/-- **The Results are numbered.** Of the rows, their states apart. -/
structure Numbered (rows : ResultId → Option ResultRow) : Prop where
  keyed : ∀ id row, rows id = some row → row.resultId = id
  /-- Two Results of a Task have two versions. -/
  apart : ∀ a b row row', rows a = some row → rows b = some row' →
    row.proposal.taskId = row'.proposal.taskId → row.resultVersion = row'.resultVersion → a = b
  /-- The versions of a Task are `1 .. n`. -/
  dense : ∀ taskId, ∃ n, ∀ v, (∃ id row, rows id = some row ∧ row.proposal.taskId = taskId ∧
    row.resultVersion = v) ↔ 1 ≤ v ∧ v ≤ n
  /-- An operation proposed one Result. -/
  single : ∀ a b row row', rows a = some row → rows b = some row' →
    row.proposal.operationId = row'.proposal.operationId → a = b

theorem exists_fixed {o o' : Option ResultRow} (h : o'.map ResultRow.fixed = o.map ResultRow.fixed)
    {row' : ResultRow} (hrow' : o' = some row') :
    ∃ row, o = some row ∧ row.resultId = row'.resultId ∧ row.proposal = row'.proposal ∧
      row.resultVersion = row'.resultVersion := by
  rw [hrow', Option.map_some] at h
  obtain ⟨row, hrow, hfixed⟩ := Option.map_eq_some_iff.mp h.symm
  exact ⟨row, hrow, congrArg (·.resultId) hfixed, congrArg (·.proposal) hfixed,
    congrArg (·.resultVersion) hfixed⟩

theorem Numbered.congr {rows rows' : ResultId → Option ResultRow} (h : Numbered rows)
    (hsame : ∀ id, (rows' id).map ResultRow.fixed = (rows id).map ResultRow.fixed) :
    Numbered rows' where
  keyed := by
    intro id row' hrow'
    obtain ⟨row, hrow, hid, -, -⟩ := exists_fixed (hsame id) hrow'
    rw [← hid]
    exact h.keyed id row hrow
  apart := by
    intro a b row row' hrow hrow' htask hversion
    obtain ⟨p, hp, -, hpp, hpv⟩ := exists_fixed (hsame a) hrow
    obtain ⟨q, hq, -, hqp, hqv⟩ := exists_fixed (hsame b) hrow'
    exact h.apart a b p q hp hq (by rw [hpp, hqp, htask]) (by rw [hpv, hqv, hversion])
  dense := by
    intro taskId
    obtain ⟨n, hn⟩ := h.dense taskId
    refine ⟨n, fun v => Iff.trans ⟨?_, ?_⟩ (hn v)⟩
    · rintro ⟨id, row', hrow', htask, hversion⟩
      obtain ⟨row, hrow, -, hproposal, hsameVersion⟩ := exists_fixed (hsame id) hrow'
      exact ⟨id, row, hrow, by rw [hproposal, htask], by rw [hsameVersion, hversion]⟩
    · rintro ⟨id, row, hrow, htask, hversion⟩
      obtain ⟨row', hrow', -, hproposal, hsameVersion⟩ := exists_fixed (hsame id).symm hrow
      exact ⟨id, row', hrow', by rw [hproposal, htask], by rw [hsameVersion, hversion]⟩
  single := by
    intro a b row row' hrow hrow' hop
    obtain ⟨p, hp, -, hpp, -⟩ := exists_fixed (hsame a) hrow
    obtain ⟨q, hq, -, hqp, -⟩ := exists_fixed (hsame b) hrow'
    exact h.single a b p q hp hq (by rw [hpp, hqp, hop])

variable {resultId : ResultId} {row : ResultRow} {n : Nat}

/-- A Result with the next version of its Task keeps the rows numbered. -/
theorem Numbered.insert {rows : ResultId → Option ResultRow} (h : Numbered rows)
    (hfresh : rows resultId = none) (hid : row.resultId = resultId)
    (hn : ∀ v, (∃ id other, rows id = some other ∧ other.proposal.taskId = row.proposal.taskId ∧
      other.resultVersion = v) ↔ 1 ≤ v ∧ v ≤ n) (hversion : row.resultVersion = n + 1)
    (hop : ∀ id other, rows id = some other →
      other.proposal.operationId ≠ row.proposal.operationId) :
    Numbered (fun id => if id = resultId then some row else rows id) where
  keyed := by
    intro id other hother
    split at hother
    · next hsame =>
      cases hother
      rw [hid, hsame]
    · exact h.keyed id other hother
  apart := by
    intro a b p q hp hq htask hpq
    -- a version of the same Task that is stored is at most `n`
    have hle : ∀ id other, rows id = some other → other.proposal.taskId = row.proposal.taskId →
        other.resultVersion ≤ n := fun id other hother hsame =>
      ((hn other.resultVersion).mp ⟨id, other, hother, hsame, rfl⟩).2
    split at hp <;> split at hq
    · next ha hb => rw [ha, hb]
    · cases hp
      have := hle b q hq htask.symm
      omega
    · cases hq
      have := hle a p hp htask
      omega
    · exact h.apart a b p q hp hq htask hpq
  dense := by
    intro taskId
    by_cases htask : taskId = row.proposal.taskId
    · subst htask
      refine ⟨n + 1, fun v => ⟨?_, fun hv => ?_⟩⟩
      · rintro ⟨id, other, hother, hsame, rfl⟩
        split at hother
        · cases hother
          omega
        · have := (hn other.resultVersion).mp ⟨id, other, hother, hsame, rfl⟩
          omega
      · by_cases hlast : v = n + 1
        · exact ⟨resultId, row, by simp only [if_true], rfl, by rw [hversion, hlast]⟩
        · obtain ⟨id, other, hother, hsame, hv'⟩ := (hn v).mpr (by omega)
          refine ⟨id, other, ?_, hsame, hv'⟩
          rw [if_neg, hother]
          rintro rfl
          rw [hfresh] at hother
          cases hother
    · obtain ⟨m, hm⟩ := h.dense taskId
      refine ⟨m, fun v => Iff.trans ⟨?_, ?_⟩ (hm v)⟩
      · rintro ⟨id, other, hother, hsame, hv⟩
        split at hother
        · cases hother
          exact absurd hsame.symm htask
        · exact ⟨id, other, hother, hsame, hv⟩
      · rintro ⟨id, other, hother, hsame, hv⟩
        refine ⟨id, other, ?_, hsame, hv⟩
        rw [if_neg, hother]
        rintro rfl
        rw [hfresh] at hother
        cases hother
  single := by
    intro a b p q hp hq hsame
    split at hp <;> split at hq
    · next ha hb => rw [ha, hb]
    · cases hp
      exact absurd hsame.symm (hop b q hq)
    · cases hq
      exact absurd hsame (hop a p hp)
    · exact h.single a b p q hp hq hsame

theorem numbered_none : Numbered fun _ => none where
  keyed := by
    intro id row hrow
    cases hrow
  apart := by
    intro a b row row' hrow
    cases hrow
  dense := by
    refine fun taskId => ⟨0, fun v => ⟨?_, fun hv => ?_⟩⟩
    · rintro ⟨id, row, hrow, -⟩
      cases hrow
    · omega
  single := by
    intro a b row row' hrow
    cases hrow

/-- The largest of numbers that are `1 .. n`. -/
theorem foldr_max_eq {versions : List Nat} (h : ∀ v, v ∈ versions ↔ 1 ≤ v ∧ v ≤ n) :
    versions.foldr max 0 = n := by
  have hupper : ∀ vs : List Nat, (∀ v ∈ vs, v ≤ n) → vs.foldr max 0 ≤ n := by
    intro vs
    induction vs with
    | nil => exact fun _ => Nat.zero_le n
    | cons v vs ih =>
      intro hvs
      exact Nat.max_le.mpr ⟨hvs v List.mem_cons_self,
        ih fun w hw => hvs w (List.mem_cons_of_mem v hw)⟩
  have hlower : ∀ vs : List Nat, ∀ v ∈ vs, v ≤ vs.foldr max 0 := by
    intro vs
    induction vs with
    | nil => simp
    | cons w vs ih =>
      intro v hv
      rcases List.mem_cons.mp hv with rfl | hv
      · exact Nat.le_max_left _ _
      · exact (ih v hv).trans (Nat.le_max_right _ _)
  refine Nat.le_antisymm (hupper versions fun v hv => ((h v).mp hv).2) ?_
  rcases Nat.eq_zero_or_pos n with rfl | hpos
  · exact Nat.zero_le _
  · exact hlower versions n ((h n).mpr ⟨hpos, le_rfl⟩)

variable {taskId : TaskId}

theorem mem_resultsOf :
    row ∈ db.resultsOf taskId ↔
      (∃ id, db.results.get id = some row) ∧ row.proposal.taskId = taskId := by
  unfold ResultDb.resultsOf
  rw [List.mem_filter, Table.mem_rows, decide_eq_true_eq]

theorem mem_versions {v : Nat} :
    v ∈ (db.resultsOf taskId).map (·.resultVersion) ↔ ∃ id row, db.results.get id = some row ∧
      row.proposal.taskId = taskId ∧ row.resultVersion = v := by
  simp only [List.mem_map, mem_resultsOf]
  constructor
  · rintro ⟨row, ⟨⟨id, hid⟩, htask⟩, hv⟩
    exact ⟨id, row, hid, htask, hv⟩
  · rintro ⟨id, row, hid, htask, hv⟩
    exact ⟨row, ⟨⟨id, hid⟩, htask⟩, hv⟩

theorem nextVersion_eq
    (hn : ∀ v, (∃ id row, db.results.get id = some row ∧ row.proposal.taskId = taskId ∧
      row.resultVersion = v) ↔ 1 ≤ v ∧ v ≤ n) : db.nextVersion taskId = n + 1 := by
  unfold ResultDb.nextVersion
  rw [foldr_max_eq fun v => mem_versions.trans (hn v)]

/-! ## The invariant -/

/-- The state of a reviewed Result: the decision, or a rejected Result that was replaced. -/
def StateOf (review : ReviewRow) (state : ResultState) : Prop :=
  state = review.decision.state ∨ (review.decision = .rejected ∧ state = .superseded)

/-- **The invariant.** -/
structure Inv (db : ResultDb) : Prop where
  numbered : Numbered fun id => db.results.get id
  reviewKeyed : ∀ id review, db.reviews.get id = some review → review.resultId = id
  reviewSingle : ∀ a b review review', db.reviews.get a = some review →
    db.reviews.get b = some review' → review.operationId = review'.operationId → a = b
  /-- A reviewed Result is in the state its review decided. -/
  decided : ∀ id review, db.reviews.get id = some review →
    ∃ row, db.results.get id = some row ∧ StateOf review row.state

theorem inv_blank : Inv .blank where
  numbered := numbered_none
  reviewKeyed := by
    intro id review h
    cases h
  reviewSingle := by
    intro a b review review' h
    cases h
  decided := by
    intro id review h
    cases h

theorem Inv.congr (h : Inv db) (hresults : db'.results = db.results)
    (hreviews : db'.reviews = db.reviews) : Inv db' where
  numbered := by
    rw [hresults]
    exact h.numbered
  reviewKeyed := by
    rw [hreviews]
    exact h.reviewKeyed
  reviewSingle := by
    rw [hreviews]
    exact h.reviewSingle
  decided := by
    rw [hreviews, hresults]
    exact h.decided

variable {id : ResultId}

theorem unused_of_resultOfOperation {operationId : OperationId}
    (h : db.resultOfOperation operationId = none) (hrow : db.results.get id = some row) :
    row.proposal.operationId ≠ operationId := by
  unfold ResultDb.resultOfOperation at h
  have hno := List.find?_eq_none.mp h row (Table.mem_rows.mpr ⟨id, hrow⟩)
  simpa using hno

theorem unused_of_reviewOfOperation {operationId : OperationId}
    (h : db.reviewOfOperation operationId = none) {review : ReviewRow}
    (hreview : db.reviews.get id = some review) : review.operationId ≠ operationId := by
  unfold ResultDb.reviewOfOperation at h
  have hno := List.find?_eq_none.mp h review (Table.mem_rows.mpr ⟨id, hreview⟩)
  simpa using hno

variable {input : CreateInput}

theorem Proposed.fixed (h : Proposed db db' input resultId) (id : ResultId) :
    (db'.results.get id).map ResultRow.fixed =
      (if id = resultId then some (input.row resultId (db.nextVersion input.proposal.taskId))
        else db.results.get id).map ResultRow.fixed := by
  rw [h.rows]
  unfold proposedRows
  split
  · rfl
  · split
    · rw [Option.map_map]
      rfl
    · rfl

theorem inv_proposed (hinv : Inv db) (h : Proposed db db' input resultId) : Inv db' where
  numbered := by
    obtain ⟨n, hn⟩ := hinv.numbered.dense input.proposal.taskId
    have hinsert : Numbered fun id =>
        if id = resultId then some (input.row resultId (db.nextVersion input.proposal.taskId))
        else db.results.get id :=
      hinv.numbered.insert h.fresh rfl hn (nextVersion_eq hn)
        fun id other hother => unused_of_resultOfOperation h.unused hother
    exact hinsert.congr h.fixed
  reviewKeyed := by
    rw [h.reviews]
    exact hinv.reviewKeyed
  reviewSingle := by
    rw [h.reviews]
    exact hinv.reviewSingle
  decided := by
    rw [h.reviews]
    intro id review hreview
    obtain ⟨row, hrow, hstate⟩ := hinv.decided id review hreview
    rw [h.rows]
    unfold proposedRows
    rw [if_neg (by
      rintro rfl
      rw [h.fresh] at hrow
      cases hrow)]
    split
    · next hreplaced =>
      -- what is replaced was not accepted, so its review rejected it
      obtain ⟨row₁, hrow₁, -, hold⟩ := h.replaced id hreplaced
      rw [hrow] at hrow₁
      cases hrow₁
      refine ⟨{ row with state := .superseded }, by rw [hrow, Option.map_some], .inr ⟨?_, rfl⟩⟩
      rcases hstate with hdecision | ⟨hrejected, -⟩
      · cases hd : review.decision with
        | rejected => rfl
        | accepted =>
          rw [hd] at hdecision
          rcases hold with hold | hold <;> rw [hdecision] at hold <;> cases hold
      · exact hrejected
    · exact ⟨row, hrow, hstate⟩

theorem inv_reviewed {input : ReviewInput} (hinv : Inv db) (h : Reviewed db db' input taskId) :
    Inv db' where
  numbered := by
    refine hinv.numbered.congr fun id => ?_
    rw [h.rows]
    split
    · rw [Option.map_map]
      rfl
    · rfl
  reviewKeyed := by
    intro id review hreview
    rw [h.reviews, Table.get_put] at hreview
    split at hreview
    · next hid =>
      cases hreview
      exact hid.symm
    · exact hinv.reviewKeyed id review hreview
  reviewSingle := by
    intro a b review review' hreview hreview' hop
    rw [h.reviews, Table.get_put] at hreview hreview'
    split at hreview <;> split at hreview'
    · -- one Result, or an operation id that was unused
      next ha hb => rw [ha, hb]
    · cases hreview
      exact absurd hop.symm (unused_of_reviewOfOperation h.unused hreview')
    · cases hreview'
      exact absurd hop (unused_of_reviewOfOperation h.unused hreview)
    · exact hinv.reviewSingle a b review review' hreview hreview' hop
  decided := by
    intro id review hreview
    rw [h.reviews, Table.get_put] at hreview
    rw [h.rows]
    split at hreview
    · next hid =>
      cases hreview
      obtain ⟨row, hrow, -, -⟩ := h.result
      refine ⟨{ row with state := input.command.decision.state }, ?_, .inl rfl⟩
      rw [if_pos hid, hid, hrow, Option.map_some]
    · next hid =>
      rw [if_neg hid]
      exact hinv.decided id review hreview

/-- **Every write keeps the invariant.** -/
theorem inv_wrote (hinv : Inv db) (h : Wrote db db') : Inv db' := by
  cases h with
  | proposed input resultId h => exact inv_proposed hinv h
  | reviewed input taskId h => exact inv_reviewed hinv h
  | mutated input h => exact hinv.congr h.results h.reviews
  | acknowledged row unused acknowledgements results reviews operations =>
    exact hinv.congr results reviews
  | updated h => exact hinv.congr h.results h.reviews

/-! ## Runs -/

/-- What happens to the tables: a call with its answer, or a Task that is created. -/
inductive Event where
  | call (call : Call) (answer : Except Err Answer)
  | createTask (host : ResultHost) (taskId : TaskId) (task : TaskRow)
      (criteria : List TaskCriterion)

/-- **The tables in use.** -/
def system : System ResultDb Event where
  init db := db = .blank
  step event db db' := match event with
    | .call call answer => call.run db = (answer, db')
    | .createTask host taskId task criteria =>
      (Results.createTask host taskId task criteria db).2 = db'

theorem createTask_cases (host : ResultHost) (taskId : TaskId) (task : TaskRow)
    (criteria : List TaskCriterion) (db : ResultDb) :
    (createTask host taskId task criteria db).2 = db ∨
    (db.tasks.get taskId = none ∧
      (createTask host taskId task criteria db).2 = { db with
        tasks := db.tasks.put taskId task
        criteria := db.criteria.put (taskId, task.criteriaRevision) criteria }) := by
  unfold createTask
  generalize hx : (do
    let db ← get
    require (db.tasks.get taskId = none) "UNIQUE constraint failed: agent_tasks.task_id"
    require (host.aborts = false ∧ 0 < task.taskRevision) "CHECK constraint failed"
    set { db with
      tasks := db.tasks.put taskId task
      criteria := db.criteria.put (taskId, task.criteriaRevision) criteria } : ResultTx Unit) = x
  rcases immediate_cases x db with ⟨e, he⟩ | ⟨u, db₁, hok, hsame⟩
  · exact .inl (by rw [he])
  · subst hx
    rw [get_bind] at hok
    obtain ⟨hnone, h₁⟩ := of_require hok
    obtain ⟨-, hset⟩ := of_require h₁
    cases hset
    exact .inr ⟨hnone, by rw [hsame]⟩

/-- What follows of a row later on: its state may differ. -/
structure Later (db db' : ResultDb) : Prop where
  results : ∀ id row, db.results.get id = some row →
    ∃ state, db'.results.get id = some { row with state }
  /-- An accepted or superseded Result stays as it is. -/
  settled : ∀ id row, db.results.get id = some row →
    row.state = .accepted ∨ row.state = .superseded → db'.results.get id = some row
  reviews : ∀ id review, db.reviews.get id = some review → db'.reviews.get id = some review
  operations : ∀ id row, db.operations.get id = some row → db'.operations.get id = some row
  /-- The revision of a Task never falls. -/
  tasks : ∀ taskId task, db.tasks.get taskId = some task →
    ∃ task', db'.tasks.get taskId = some task' ∧ task.taskRevision ≤ task'.taskRevision

theorem Later.refl (db : ResultDb) : Later db db where
  results _ row h := ⟨row.state, h⟩
  settled _ _ h _ := h
  reviews _ _ h := h
  operations _ _ h := h
  tasks _ task h := ⟨task, h, le_rfl⟩

theorem Later.trans {a b c : ResultDb} (h : Later a b) (h' : Later b c) : Later a c where
  results id row hrow := by
    obtain ⟨state, hb⟩ := h.results id row hrow
    exact h'.results id { row with state } hb
  settled id row hrow hstate := h'.settled id row (h.settled id row hrow hstate) hstate
  reviews id review hreview := h'.reviews id review (h.reviews id review hreview)
  operations id row hrow := h'.operations id row (h.operations id row hrow)
  tasks taskId task htask := by
    obtain ⟨task₁, htask₁, hle⟩ := h.tasks taskId task htask
    obtain ⟨task₂, htask₂, hle'⟩ := h'.tasks taskId task₁ htask₁
    exact ⟨task₂, htask₂, hle.trans hle'⟩

theorem later_advances (h : Advances taskId db db') :
    ∀ id task, db.tasks.get id = some task →
      ∃ task', db'.tasks.get id = some task' ∧ task.taskRevision ≤ task'.taskRevision := by
  obtain ⟨old, new, hold, htasks, hrevision⟩ := h
  intro id task htask
  rw [htasks, Table.get_put]
  split
  · next hid =>
    rw [hid, hold] at htask
    cases htask
    exact ⟨new, rfl, by omega⟩
  · exact ⟨task, htask, le_rfl⟩

/-- What a call wrote comes after what was there. -/
theorem later_wrote (hwrote : Wrote db db') (hadvances : Advances taskId db db') :
    Later db db' := by
  have htasks := later_advances hadvances
  cases hwrote with
  | proposed input resultId h =>
    refine ⟨fun id row hrow => ?_, fun id row hrow hstate => ?_, ?_, ?_, htasks⟩
    · rw [h.rows]
      unfold proposedRows
      rw [if_neg (by
        rintro rfl
        rw [h.fresh] at hrow
        cases hrow), hrow]
      split
      · exact ⟨.superseded, rfl⟩
      · exact ⟨row.state, rfl⟩
    · rw [h.rows]
      unfold proposedRows
      rw [if_neg (by
        rintro rfl
        rw [h.fresh] at hrow
        cases hrow), if_neg, hrow]
      intro hreplaced
      -- only a proposed or rejected Result is superseded
      obtain ⟨row₁, hrow₁, -, hold⟩ := h.replaced id hreplaced
      rw [hrow] at hrow₁
      cases hrow₁
      rcases hstate with hstate | hstate <;> rw [hstate] at hold <;>
        rcases hold with hold | hold <;> cases hold
    · intro id review hreview
      rw [h.reviews, hreview]
    · intro id row hrow
      rw [h.operations, hrow]
  | reviewed input _ h =>
    -- a review decides a Result that was proposed
    obtain ⟨old, hold, hproposed, -⟩ := h.result
    refine ⟨fun id row hrow => ?_, fun id row hrow hstate => ?_, ?_, ?_, htasks⟩
    · rw [h.rows, hrow]
      split
      · exact ⟨input.command.decision.state, rfl⟩
      · exact ⟨row.state, rfl⟩
    · rw [h.rows, if_neg, hrow]
      rintro rfl
      rw [hold] at hrow
      cases hrow
      rcases hstate with hstate | hstate <;> rw [hproposed] at hstate <;> cases hstate
    · intro id review hreview
      rw [h.reviews, Table.get_put_ne, hreview]
      rintro rfl
      rw [h.unreviewed] at hreview
      cases hreview
    · intro id row hrow
      rw [h.operations, hrow]
  | mutated input h =>
    obtain ⟨row, -, hput⟩ := h.operations
    refine ⟨fun id row hrow => ⟨row.state, by rw [h.results, hrow]⟩,
      fun id row hrow _ => by rw [h.results, hrow],
      fun id review hreview => by rw [h.reviews, hreview], fun id old hold => ?_, htasks⟩
    rw [hput, Table.get_put_ne, hold]
    rintro rfl
    rw [h.unused] at hold
    cases hold
  | acknowledged row unused acknowledgements results reviews operations =>
    exact ⟨fun id row hrow => ⟨row.state, by rw [results, hrow]⟩,
      fun id row hrow _ => by rw [results, hrow],
      fun id review hreview => by rw [reviews, hreview],
      fun id old hold => by rw [operations, hold], htasks⟩
  | updated h =>
    exact ⟨fun id row hrow => ⟨row.state, by rw [h.results, hrow]⟩,
      fun id row hrow _ => by rw [h.results, hrow],
      fun id review hreview => by rw [h.reviews, hreview],
      fun id old hold => by rw [h.operations, hold], htasks⟩

variable {call : Call}

theorem inv_later_call {answer : Except Err Answer} (h : call.run db = (answer, db')) :
    (Inv db → Inv db') ∧ Later db db' := by
  cases answer with
  | error e =>
    obtain rfl := Call.unchanged_of_error h
    exact ⟨id, .refl _⟩
  | ok answer =>
    obtain ⟨-, rfl⟩ | ⟨-, hwrote, taskId, -, hadvances⟩ := Call.settled h
    · exact ⟨id, .refl _⟩
    · exact ⟨fun hinv => inv_wrote hinv hwrote, later_wrote hwrote hadvances⟩

/-- **One event.** -/
theorem inv_later_step {event : Event} (h : system.step event db db') :
    (Inv db → Inv db') ∧ Later db db' := by
  cases event with
  | call call answer => exact inv_later_call h
  | createTask host taskId task criteria =>
    have hdb : (createTask host taskId task criteria db).2 = db' := h
    obtain hsame | ⟨hnone, hput⟩ := createTask_cases host taskId task criteria db
    · rw [hsame] at hdb
      subst hdb
      exact ⟨id, .refl db⟩
    · rw [hput] at hdb
      subst hdb
      refine ⟨fun hinv => hinv.congr rfl rfl, fun id row hrow => ⟨row.state, hrow⟩,
        fun _ _ hrow _ => hrow, fun _ _ hreview => hreview, fun _ _ hrow => hrow,
        fun id old hold => ⟨old, ?_, le_rfl⟩⟩
      dsimp only
      rw [Table.get_put_ne, hold]
      rintro rfl
      rw [hnone] at hold
      cases hold

theorem inv_reachable (h : system.Reachable db) : Inv db := by
  refine system.invariant Inv ?_ (fun event db db' hstep hinv => (inv_later_step hstep).1 hinv) h
  rintro db rfl
  exact inv_blank

/-- **What a run keeps.** -/
theorem later_steps (h : system.Reachable db) (hsteps : system.Steps db db') : Later db db' :=
  system.along_run Later.refl (fun _ _ _ => Later.trans)
    (fun _ _ _ _ hstep => (inv_later_step hstep).2) h hsteps

theorem reachable_call {answer : Except Err Answer} (h : system.Reachable db)
    (hcall : call.run db = (answer, db')) : system.Reachable db' := by
  have hstep : system.step (.call call answer) db db' := hcall
  exact System.reachable_step h hstep

/-! ## Repeated operations -/

theorem resultOfOperation_eq (hinv : Inv db) (hrow : db.results.get id = some row) :
    db.resultOfOperation row.proposal.operationId = some row := by
  cases hop : db.resultOfOperation row.proposal.operationId with
  | none => exact absurd rfl (unused_of_resultOfOperation hop hrow)
  | some other =>
    unfold ResultDb.resultOfOperation at hop
    have hsame : other.proposal.operationId = row.proposal.operationId := by
      simpa using List.find?_some hop
    obtain ⟨b, hb⟩ := Table.mem_rows.mp (List.mem_of_find?_eq_some hop)
    obtain rfl := hinv.numbered.single b id other row hb hrow hsame
    rw [hb] at hrow
    exact hrow

theorem reviewOfOperation_eq (hinv : Inv db) {review : ReviewRow}
    (hreview : db.reviews.get id = some review) :
    db.reviewOfOperation review.operationId = some review := by
  cases hop : db.reviewOfOperation review.operationId with
  | none => exact absurd rfl (unused_of_reviewOfOperation hop hreview)
  | some other =>
    unfold ResultDb.reviewOfOperation at hop
    have hsame : other.operationId = review.operationId := by
      simpa using List.find?_some hop
    obtain ⟨b, hb⟩ := Table.mem_rows.mp (List.mem_of_find?_eq_some hop)
    obtain rfl := hinv.reviewSingle b id other review hb hreview hsame
    rw [hb] at hreview
    exact hreview

theorem create_replay (hrow : db.resultOfOperation input.proposal.operationId = some row)
    (htask : row.proposal.taskId = input.proposal.taskId) :
    create host input db = (.ok (db.getResult row.resultId), db) := by
  have honce : createOnce host input db = (.ok row.resultId, db) := by
    unfold createOnce
    rw [get_bind, hrow]
    exact bind_ok (require_ok htask)
  unfold create
  rw [bind_ok (immediate_ok honce)]
  rfl

theorem review_replay {input : ReviewInput} {row : ReviewRow}
    (hrow : db.reviewOfOperation input.command.operationId = some row)
    (hresult : row.resultId = input.resultId) :
    review host input db = (.ok (row.outcome db), db) := by
  refine immediate_ok ?_
  unfold reviewOnce ReviewRow.outcome
  rw [get_bind, hrow, hresult]
  exact bind_ok (require_ok hresult)

theorem mutate_replay {input : MutationInput} {beside : TaskRow → ResultTx Unit}
    {change : TaskRow → TaskRow} {row : TaskOperation}
    (hrow : db.operations.get input.operationId = some row) (htask : row.taskId = input.taskId) :
    mutate host input beside change db = (.ok (), db) := by
  refine immediate_ok ?_
  have hreplay : isOperationReplay input.operationId input.taskId db = (.ok true, db) := by
    unfold isOperationReplay
    rw [get_bind, hrow]
    exact bind_ok (require_ok htask)
  rw [bind_ok hreplay]
  rfl

/-! ## The law -/

theorem nodup_versions (hinv : Inv db) (taskId : TaskId) :
    ((db.resultsOf taskId).map (·.resultVersion)).Nodup := by
  have hids : (db.results.rows.map (·.resultId)).Nodup :=
    Table.nodup_rows_map hinv.numbered.keyed
  have hrows : (db.resultsOf taskId).Nodup := (List.Nodup.of_map _ hids).filter _
  refine List.Nodup.map_on (fun row hrow row' hrow' hversion => ?_) hrows
  obtain ⟨⟨a, ha⟩, htask⟩ := mem_resultsOf.mp hrow
  obtain ⟨⟨b, hb⟩, htask'⟩ := mem_resultsOf.mp hrow'
  obtain rfl := hinv.numbered.apart a b row row' ha hb (htask.trans htask'.symm) hversion
  rw [ha] at hb
  exact Option.some.inj hb

/-- The versions of a Task, of which the largest is their number. -/
theorem versions_perm (hinv : Inv db) (taskId : TaskId) :
    ((db.resultsOf taskId).map (·.resultVersion)).Perm
      (List.range' 1 (db.resultsOf taskId).length) ∧
    db.nextVersion taskId = (db.resultsOf taskId).length + 1 := by
  obtain ⟨n, hn⟩ := hinv.numbered.dense taskId
  have hperm : ((db.resultsOf taskId).map (·.resultVersion)).Perm (List.range' 1 n) := by
    refine (List.perm_ext_iff_of_nodup (nodup_versions hinv taskId) List.nodup_range').mpr
      fun v => ?_
    rw [mem_versions, hn v, List.mem_range'_1]
    omega
  have hlength : (db.resultsOf taskId).length = n := by
    have := hperm.length_eq
    rwa [List.length_map, List.length_range'] at this
  rw [hlength]
  exact ⟨hperm, nextVersion_eq hn⟩

/-- What a mutation of a Task names. -/
def Call.mutation : Call → Option MutationInput
  | .fenceRevision _ input | .updateDefinition _ input _ | .updateControl _ input _ _
  | .addBlock _ input _ _ | .resolveBlock _ input _ _ => some input
  | _ => none

theorem recorded_mutate {input : MutationInput} {beside : TaskRow → ResultTx Unit}
    {change : TaskRow → TaskRow} (hbeside : Beside beside)
    (h : mutate host input beside change db = (.ok (), db')) :
    ∃ row, db'.operations.get input.operationId = some row ∧ row.taskId = input.taskId := by
  obtain ⟨row, hrow, htask, rfl⟩ | hmutated := mutate_ok hbeside h
  · exact ⟨row, hrow, htask⟩
  · obtain ⟨row, htask, hput⟩ := hmutated.operations
    exact ⟨row, by rw [hput, Table.get_put_self], htask⟩

theorem recorded_mutation {input : MutationInput} {answer : Answer}
    (hinput : call.mutation = some input) (h : call.run db = (.ok answer, db')) :
    ∃ row, db'.operations.get input.operationId = some row ∧ row.taskId = input.taskId := by
  cases call with
  | fenceRevision host own =>
    cases hinput
    obtain ⟨_, hx, -⟩ := of_answer h
    exact recorded_mutate beside_pure hx
  | updateDefinition host own definition =>
    cases hinput
    obtain ⟨_, hx, -⟩ := of_answer h
    exact recorded_mutate (beside_criteria input definition) hx
  | updateControl host own lifecycleState schedulingEnabled =>
    cases hinput
    obtain ⟨_, hx, -⟩ := of_answer h
    exact recorded_mutate beside_pure hx
  | addBlock host own reason memberId =>
    cases hinput
    obtain ⟨_, hx, -⟩ := of_answer h
    exact recorded_mutate (beside_insertBlock input reason memberId) hx
  | resolveBlock host own blockId memberId =>
    cases hinput
    obtain ⟨_, hx, -⟩ := of_answer h
    exact recorded_mutate (beside_closeBlock input blockId memberId) hx
  | _ => cases hinput

/-- A mutation whose operation is among the rows answers, and writes nothing. -/
theorem mutation_replay {input : MutationInput} {row : TaskOperation}
    (hinput : call.mutation = some input) (hrow : db.operations.get input.operationId = some row)
    (htask : row.taskId = input.taskId) :
    call.run db = (.ok .done, db) := by
  cases call with
  | fenceRevision host own =>
    cases hinput
    exact bind_ok (mutate_replay hrow htask)
  | updateDefinition host own definition =>
    cases hinput
    exact bind_ok (mutate_replay hrow htask)
  | updateControl host own lifecycleState schedulingEnabled =>
    cases hinput
    exact bind_ok (mutate_replay hrow htask)
  | addBlock host own reason memberId =>
    cases hinput
    exact bind_ok (mutate_replay hrow htask)
  | resolveBlock host own blockId memberId =>
    cases hinput
    exact bind_ok (mutate_replay hrow htask)
  | _ => cases hinput

/-- What a proposal answers is the Result of its operation. -/
theorem create_answer {projection : Option ResultProjection} (hinv : Inv db)
    (h : create host input db = (.ok projection, db')) :
    ∃ row, projection = some ⟨row, db'.reviews.get row.resultId⟩ ∧
      db'.results.get row.resultId = some row ∧
      row.proposal.operationId = input.proposal.operationId ∧
      row.proposal.taskId = input.proposal.taskId := by
  obtain ⟨resultId, db₁, honce, hget⟩ := ok_of_bind h
  cases hget
  obtain ⟨row, hrow, htask, rfl, rfl⟩ | hproposed := createOnce_ok (ok_of_immediate honce)
  · unfold ResultDb.resultOfOperation at hrow
    have hop : row.proposal.operationId = input.proposal.operationId := by
      simpa using List.find?_some hrow
    obtain ⟨id, hid⟩ := Table.mem_rows.mp (List.mem_of_find?_eq_some hrow)
    obtain rfl := hinv.numbered.keyed id row hid
    refine ⟨row, ?_, hid, hop, htask⟩
    unfold ResultDb.getResult
    rw [hid, Option.map_some]
  · have hrow := hproposed.rows resultId
    unfold proposedRows at hrow
    rw [if_pos rfl] at hrow
    refine ⟨input.row resultId (db.nextVersion input.proposal.taskId), ?_, hrow, rfl, rfl⟩
    unfold ResultDb.getResult
    rw [hrow, Option.map_some]
    rfl

theorem review_answer {input : ReviewInput} {outcome : ReviewOutcome} (hinv : Inv db)
    (h : review host input db = (.ok outcome, db')) :
    ∃ row, db'.reviews.get input.resultId = some row ∧
      row.operationId = input.command.operationId ∧ outcome = row.outcome db' := by
  obtain ⟨row, hrow, hresult, rfl, rfl⟩ | ⟨taskId, hreviewed, rfl⟩ :=
    reviewOnce_ok (ok_of_immediate h)
  · unfold ResultDb.reviewOfOperation at hrow
    have hop : row.operationId = input.command.operationId := by
      simpa using List.find?_some hrow
    obtain ⟨id, hid⟩ := Table.mem_rows.mp (List.mem_of_find?_eq_some hrow)
    obtain rfl := hinv.reviewKeyed id row hid
    exact ⟨row, by rw [← hresult, hid], hop, rfl⟩
  · exact ⟨input.row, by rw [hreviewed.reviews, Table.get_put_self], rfl, rfl⟩

/-- A Result that was reviewed is reviewed by no other operation. -/
theorem reviewed_already {input : ReviewInput} {row : ReviewRow} (hinv : Inv db)
    (hrow : db.reviews.get input.resultId = some row)
    (hother : row.operationId ≠ input.command.operationId) :
    ∃ e, review host input db = (.error e, db) := by
  rcases hreview : review host input db with ⟨e | outcome, db'⟩
  · obtain rfl := state_of_immediate_error hreview
    exact ⟨e, rfl⟩
  · exfalso
    obtain ⟨old, hold, hresult, -, -⟩ | ⟨taskId, hreviewed, -⟩ :=
      reviewOnce_ok (ok_of_immediate hreview)
    · unfold ResultDb.reviewOfOperation at hold
      have hop : old.operationId = input.command.operationId := by
        simpa using List.find?_some hold
      obtain ⟨id, hid⟩ := Table.mem_rows.mp (List.mem_of_find?_eq_some hold)
      obtain rfl := hinv.reviewKeyed id old hid
      rw [hresult, hrow] at hid
      cases hid
      exact hother hop
    · rw [hreviewed.unreviewed] at hrow
      cases hrow

/-- **The versions of Results.** -/
structure VersionLaw : Prop where
  /-- The Results of a Task carry the versions `1 .. n`. -/
  versions : ∀ db, system.Reachable db → ∀ taskId,
    ((db.resultsOf taskId).map (·.resultVersion)).Perm
      (List.range' 1 (db.resultsOf taskId).length)
  /-- A call that throws writes nothing, and neither does a replay; any other call that returns
  raises the revision of the Task it is about by one, and leaves every other Task as it is. -/
  one_revision : ∀ (db : ResultDb) (call : Call), match call.run db with
    | (.error _, db') => db' = db
    | (.ok _, db') => (call.replays db → db' = db) ∧
        (¬ call.replays db → ∃ taskId task task', call.subject db = some taskId ∧
          db.tasks.get taskId = some task ∧ db'.tasks.get taskId = some task' ∧
          task'.taskRevision = task.taskRevision + 1 ∧
          ∀ other, other ≠ taskId → db'.tasks.get other = db.tasks.get other)
  /-- A proposal that is no replay answers a proposed Result with the next version. -/
  next_version : ∀ db host input projection db', system.Reachable db →
    create host input db = (.ok projection, db') → ¬ (Call.create host input).replays db →
    ∃ row, projection = some ⟨row, none⟩ ∧ row.state = .proposed ∧ row.proposal = input.proposal ∧
      row.resultVersion = (db.resultsOf input.proposal.taskId).length + 1
  /-- A review stays as it is, and its Result in the state it decided or replaced. -/
  review_final : ∀ db db', system.Reachable db → system.Steps db db' →
    ∀ id review, db.reviews.get id = some review → db'.reviews.get id = some review ∧
      ∃ row, db'.results.get id = some row ∧ StateOf review row.state
  /-- A Result that was reviewed is reviewed by no other operation. -/
  reviewed_once : ∀ db host input review, system.Reachable db →
    db.reviews.get input.resultId = some review →
    review.operationId ≠ input.command.operationId →
    ∃ e, Results.review host input db = (.error e, db)
  /-- A proposal made again, whenever and with whatever else it says, answers the Result that its
  operation created, as it then is, and writes nothing. -/
  create_again : ∀ db host input projection db₁ db₂, system.Reachable db →
    create host input db = (.ok projection, db₁) → system.Steps db₁ db₂ →
    ∃ first state, projection = some first ∧ ∀ host' input',
      input'.proposal.operationId = input.proposal.operationId →
      input'.proposal.taskId = input.proposal.taskId →
      create host' input' db₂ =
        (.ok (some ⟨{ first.result with state }, db₂.reviews.get first.result.resultId⟩), db₂)
  /-- A review made again answers the revisions, the completion and the review of the first, with
  the Result as it then is, and writes nothing. -/
  review_again : ∀ db host input outcome db₁ db₂, system.Reachable db →
    review host input db = (.ok outcome, db₁) → system.Steps db₁ db₂ →
    ∃ first state, outcome.result = some first ∧ first.review.isSome ∧ ∀ host' input',
      input'.command.operationId = input.command.operationId → input'.resultId = input.resultId →
      review host' input' db₂ =
        (.ok { outcome with result := some ⟨{ first.result with state }, first.review⟩ }, db₂)
  /-- A mutation made again, by whichever call, returns and writes nothing. -/
  mutation_again : ∀ db (call : Call) input answer db₁ db₂, system.Reachable db →
    call.mutation = some input → call.run db = (.ok answer, db₁) → system.Steps db₁ db₂ →
    ∀ (again : Call) input', again.mutation = some input' → input'.operationId = input.operationId →
      input'.taskId = input.taskId → again.run db₂ = (.ok .done, db₂)

theorem version_law : VersionLaw where
  versions := fun db h taskId => (versions_perm (inv_reachable h) taskId).1
  one_revision := by
    intro db call
    rcases hcall : call.run db with ⟨e | answer, db'⟩
    · exact Call.unchanged_of_error hcall
    · dsimp only
      obtain ⟨hreplay, rfl⟩ | ⟨hreplay, -, taskId, hsubject, task, task', htask, hput, hrevision⟩ :=
        Call.settled hcall
      · exact ⟨fun _ => rfl, fun hnot => absurd hreplay hnot⟩
      · refine ⟨fun h => absurd h hreplay, fun _ => ⟨taskId, task, task', hsubject, htask, ?_,
          hrevision, fun other hother => ?_⟩⟩
        · rw [hput, Table.get_put_self]
        · rw [hput, Table.get_put_ne _ _ hother]
  next_version := by
    intro db host input projection db' h hcreate hreplay
    have hinv := inv_reachable h
    obtain ⟨resultId, db₁, honce, hget⟩ := ok_of_bind hcreate
    cases hget
    obtain ⟨row, hrow, -, -, -⟩ | hproposed := createOnce_ok (ok_of_immediate honce)
    · exact absurd (by simp only [Call.replays, hrow, Option.isSome_some]) hreplay
    · refine ⟨input.row resultId (db.nextVersion input.proposal.taskId), ?_, rfl, rfl,
        (versions_perm hinv input.proposal.taskId).2⟩
      -- a result that is new has no review
      have hnone : db'.reviews.get resultId = none := by
        rw [hproposed.reviews]
        cases hreview : db.reviews.get resultId with
        | none => rfl
        | some review =>
          obtain ⟨row, hrow, -⟩ := hinv.decided resultId review hreview
          rw [hproposed.fresh] at hrow
          cases hrow
      have hrow := hproposed.rows resultId
      unfold proposedRows at hrow
      rw [if_pos rfl] at hrow
      unfold ResultDb.getResult
      rw [hrow, Option.map_some, hnone]
  review_final := by
    intro db db' h hsteps id review hreview
    have hlater := (later_steps h hsteps).reviews id review hreview
    exact ⟨hlater, (inv_reachable (System.reachable_steps h hsteps)).decided id review hlater⟩
  reviewed_once := fun db host input review h hreview hother =>
    reviewed_already (inv_reachable h) hreview hother
  create_again := by
    intro db host input projection db₁ db₂ h hcreate hsteps
    obtain ⟨row, rfl, hrow, hop, htask⟩ := create_answer (inv_reachable h) hcreate
    have hcall : (Call.create host input).run db =
        (.ok (.result (some ⟨row, db₁.reviews.get row.resultId⟩)), db₁) := bind_ok hcreate
    have h₁ := reachable_call h hcall
    have h₂ := System.reachable_steps h₁ hsteps
    -- later steps keep the row, whatever its state becomes
    obtain ⟨state, hlater⟩ := (later_steps h₁ hsteps).results row.resultId row hrow
    refine ⟨_, state, rfl, fun host' input' hop' htask' => ?_⟩
    have hfound := resultOfOperation_eq (inv_reachable h₂) hlater
    rw [create_replay (by rw [hop', ← hop]; exact hfound) (by rw [htask', ← htask])]
    unfold ResultDb.getResult
    rw [hlater, Option.map_some]
  review_again := by
    intro db host input outcome db₁ db₂ h hreview hsteps
    obtain ⟨review, hrow, hop, rfl⟩ := review_answer (inv_reachable h) hreview
    have hcall : (Call.review host input).run db = (.ok (.reviewed (review.outcome db₁)), db₁) :=
      bind_ok hreview
    have h₁ := reachable_call h hcall
    have h₂ := System.reachable_steps h₁ hsteps
    have hlater := later_steps h₁ hsteps
    have hid := (inv_reachable h₁).reviewKeyed input.resultId review hrow
    obtain ⟨row, hresult, -⟩ := (inv_reachable h₁).decided input.resultId review hrow
    obtain ⟨state, hresult₂⟩ := hlater.results input.resultId row hresult
    have hreview₂ := hlater.reviews input.resultId review hrow
    refine ⟨⟨row, some review⟩, state, ?_, rfl, fun host' input' hop' hid' => ?_⟩
    · unfold ReviewRow.outcome ResultDb.getResult
      rw [hid, hresult, Option.map_some, hrow]
    · have hfound := reviewOfOperation_eq (inv_reachable h₂) hreview₂
      rw [review_replay (by rw [hop', ← hop]; exact hfound) (by rw [hid', hid])]
      unfold ReviewRow.outcome ResultDb.getResult
      rw [hid, hresult₂, Option.map_some, hreview₂]
  mutation_again := by
    intro db call input answer db₁ db₂ h hinput hcall hsteps again input' hagain hop htask
    obtain ⟨row, hrow, hrowTask⟩ := recorded_mutation hinput hcall
    have hlater := later_steps (reachable_call h hcall) hsteps
    refine mutation_replay hagain ?_ (hrowTask.trans htask.symm)
    rw [hop]
    exact hlater.operations input.operationId row hrow

/-! ## A Result that is rejected between a proposal and its repetition -/

/-- A host with nothing under way that hands out one identity. -/
def sampleHost : ResultHost := ⟨true, false, false, false, fun _ => none, 1⟩

def sampleTask : TaskRow where
  roomId := 1
  title := "Draft"
  goal := "A draft"
  ownerMemberId := 1
  lifecycleState := .active
  schedulingEnabled := true
  completionPolicy := .ownerConfirmed
  priority := .normal
  dueAt := none
  taskRevision := 1
  definitionRevision := 1
  criteriaRevision := 1
  assignments := []
  maxRunAttempts := 3
  maxExecutionDurationSeconds := 600
  completionResultId := none
  isDefault := false
  updatedAt := 0

def sampleProposal : CreateInput where
  roomId := 1
  proposal := {
    operationId := "op_propose_01"
    taskId := 1
    definitionRevision := 1
    criteriaRevision := 1
    proposedAtTaskRevision := 1
    supersedesResultId := none
    outcome := .satisfied
    summary := "Done"
    risks := []
    openQuestions := []
    nextActions := []
    sources := []
    criterionClaims := [] }
  actor := .member 1
  now := 1

def sampleReview : ReviewInput where
  resultId := 1
  memberId := 1
  command := {
    operationId := "op_reject_01"
    decision := .rejected
    expectedTaskRevision := 2
    expectedReviewRevision := 0
    reason := "Not yet"
    completeTask := false }
  now := 2

def sampleCreated : ResultDb := (createTask sampleHost 1 sampleTask [] .blank).2

def sampleProposed : ResultDb := (create sampleHost sampleProposal sampleCreated).2

def sampleRejected : ResultDb := (review sampleHost sampleReview sampleProposed).2

/-- A proposal that is repeated after its Result was rejected answers a rejected Result. -/
theorem repeat_answers_rejected :
    ¬ ∀ db host input projection db₁ db₂, system.Reachable db →
      create host input db = (.ok projection, db₁) → system.Steps db₁ db₂ →
      (create host input db₂).1 = .ok projection := by
  intro hclaim
  have hcreated : system.Reachable sampleCreated :=
    System.reachable_step (System.reachable_init rfl)
      (show system.step (.createTask sampleHost 1 sampleTask []) .blank sampleCreated from rfl)
  have hsteps : system.Steps sampleProposed sampleRejected := by
    refine Relation.ReflTransGen.single ⟨.call (.review sampleHost sampleReview)
      ((Call.review sampleHost sampleReview).run sampleProposed).1, ?_⟩
    have hdb : ((Call.review sampleHost sampleReview).run sampleProposed).2 = sampleRejected := by
      rcases hreview : review sampleHost sampleReview sampleProposed with ⟨e | outcome, db'⟩
      · unfold sampleRejected
        rw [hreview]
        exact congrArg Prod.snd (bind_error hreview)
      · unfold sampleRejected
        rw [hreview]
        exact congrArg Prod.snd (bind_ok hreview)
    exact Prod.ext rfl hdb
  have hstates : ((create sampleHost sampleProposal sampleCreated).1.toOption.join.map
        (·.result.state)) = some .proposed ∧
      ((create sampleHost sampleProposal sampleRejected).1.toOption.join.map
        (·.result.state)) = some .rejected := by
    decide +kernel
  rcases hcreate : create sampleHost sampleProposal sampleCreated with ⟨e | projection, db₁⟩
  · rw [hcreate] at hstates
    cases hstates.1
  · have hdb : db₁ = sampleProposed := by
      unfold sampleProposed
      rw [hcreate]
    have hagain := hclaim sampleCreated sampleHost sampleProposal projection db₁ sampleRejected
      hcreated hcreate (by rw [hdb]; exact hsteps)
    rw [hcreate, hagain] at hstates
    obtain ⟨hproposed, hrejected⟩ := hstates
    rw [hproposed] at hrejected
    cases hrejected

end AgentRoom.Results
