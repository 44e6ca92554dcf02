import AgentRoom.Lib.SeqLog
import AgentRoom.Workspace.Leases

/-!
# What the lease calls write

`Life` is a lease as its operations tell it: it is advanced to generations it never had, each
operation carries the next revision, and nothing follows a revocation or a release. A call
either leaves the tables alone or makes one `Write`, and every write continues the lives of the
leases.
-/

namespace AgentRoom.Workspace

open Execution (Manifest ManifestScope WorkspaceLease)
open Plan (RepositoryInput)

/-! ## The life of a lease -/

/-- **The life of a lease** that started at the generation `first`. -/
inductive Life (first : String) : List Operation → Prop where
  | reserved : Life first []
  | advanced {ops : List Operation} {op : Operation} (h : Life first ops)
      (hopen : ∀ old ∈ ops, old.kind = .advance) (hkind : op.kind = .advance)
      (hrevision : op.revision = 2 + ops.length)
      (hnew : op.generation ∉ first :: ops.map Operation.generation) : Life first (ops ++ [op])
  | closed {ops : List Operation} {op : Operation} (h : Life first ops)
      (hopen : ∀ old ∈ ops, old.kind = .advance) (hkind : op.kind ≠ .advance)
      (hrevision : op.revision = 2 + ops.length) : Life first (ops ++ [op])

/-- The generations a lease had: the first one, and one for each advance. -/
def generations (first : String) (ops : List Operation) : List String :=
  first :: (ops.filter fun op => op.kind = .advance).map Operation.generation

namespace Life

variable {first : String} {ops : List Operation} {op : Operation}

theorem numbered (h : Life first ops) : SeqLog.Numbered 2 (ops.map Operation.revision) := by
  induction h with
  | reserved => exact SeqLog.numbered_nil 2
  | advanced _ _ _ hrevision _ ih | closed _ _ _ hrevision ih =>
    rw [List.map_append]
    exact ih.append (by rw [hrevision, List.length_map])

theorem revision_lt (h : Life first ops) (hop : op ∈ ops) : op.revision < 2 + ops.length := by
  have hmem : op.revision ∈ ops.map Operation.revision := List.mem_map_of_mem hop
  have hnumbered := h.numbered
  unfold SeqLog.Numbered at hnumbered
  rw [hnumbered, List.length_map, List.mem_range'_1] at hmem
  omega

theorem argmax_revision (h : Life first ops) : ops.argmax Operation.revision = ops.getLast? := by
  cases h with
  | reserved => rfl
  | @advanced ops op h _ _ hrevision _ | @closed ops op h _ _ hrevision =>
    rw [List.argmax_concat, List.getLast?_concat]
    rcases hmax : ops.argmax Operation.revision with _ | last
    · rfl
    · have hlt := h.revision_lt (List.argmax_mem hmax)
      simp only [hrevision]
      rw [if_pos hlt]

/-- No generation is used twice. -/
theorem nodup_generations (h : Life first ops) : (generations first ops).Nodup := by
  induction h with
  | reserved => exact List.nodup_singleton first
  | @advanced ops op h hopen hkind _ hnew ih =>
    have hall : ops.filter (fun op => op.kind = .advance) = ops :=
      List.filter_eq_self.mpr fun old hold => decide_eq_true (hopen old hold)
    unfold generations at ih ⊢
    rw [List.filter_append, hall, List.map_append]
    rw [hall] at ih
    simp only [hkind, decide_true, List.filter_cons_of_pos, List.filter_nil, List.map_cons,
      List.map_nil]
    rw [← List.cons_append, List.nodup_append_comm, List.singleton_append, List.nodup_cons]
    exact ⟨hnew, ih⟩
  | @closed ops op h hopen hkind _ ih =>
    unfold generations at ih ⊢
    simpa [List.filter_append, hkind] using ih

theorem getLast?_of_closed (h : Life first ops) (hop : op ∈ ops) (hkind : op.kind ≠ .advance) :
    ops.getLast? = some op := by
  cases h with
  | reserved => cases hop
  | @advanced ops last _ hopen hlast =>
    rcases List.mem_append.mp hop with hold | hnew
    · exact absurd (hopen op hold) hkind
    · exact absurd (List.mem_singleton.mp hnew ▸ hlast) hkind
  | @closed ops last _ hopen =>
    rcases List.mem_append.mp hop with hold | hnew
    · exact absurd (hopen op hold) hkind
    · rw [List.getLast?_concat, List.mem_singleton.mp hnew]

end Life

/-! ## Reading what is stored -/

section Reads

variable {db : LeaseDb} {row : LeaseRow} {op : Operation} {leaseId : String}

theorem row_ok (h : db.row leaseId = .ok row) : row ∈ db.leases ∧ row.leaseId = leaseId := by
  have hfind := Except.demand_eq_ok.mp h
  exact ⟨List.mem_of_find?_eq_some hfind, by simpa using List.find?_some hfind⟩

theorem mem_operationsOf : op ∈ db.operationsOf leaseId ↔
    op ∈ db.operations ∧ op.leaseId = leaseId := by
  simp [LeaseDb.operationsOf]

theorem operationsOf_snoc (db : LeaseDb) (op : Operation) (leaseId : String) :
    LeaseDb.operationsOf { db with operations := db.operations ++ [op] } leaseId =
      if op.leaseId = leaseId then db.operationsOf leaseId ++ [op]
      else db.operationsOf leaseId := by
  unfold LeaseDb.operationsOf
  rw [List.filter_append]
  split <;> simp [*]

end Reads

section Facts

variable {P : Platform} {S : Surroundings} {db db' : LeaseDb} {row : LeaseRow}
  {st current : IsolatedWorkspaceState} {principal : DevicePrincipal}
  {command : WorkspaceOperationCommand} {now : String}

/-! ## Writes -/

/-- The row `op` records the request `r`. -/
structure Records (P : Platform) (op : Operation) (r : OperationRequest) : Prop where
  digest : op.requestDigest = P.digest (.request r)
  operationId : op.operationId = r.command.operationId
  leaseId : op.leaseId = r.command.leaseId
  kind : op.kind = r.kind
  generation : op.generation = r.generation

/-- The identities of a lease are those planned for its attempt. -/
def Planned (P : Platform) (row : LeaseRow) : Prop :=
  ∃ (scope : ManifestScope) (repository : RepositoryInput), attemptOf scope = row.attempt ∧
    row.lease = planIsolatedWorkspace P scope repository row.lease.issuedAt row.lease.expiresAt

/-- What one call writes. -/
inductive Write (P : Platform) (db : LeaseDb) : LeaseDb → Prop where
  | lease (row : LeaseRow) (hplanned : Planned P row)
      (hfree : ∀ old ∈ db.leases, old.leaseId ≠ row.leaseId ∧
        old.attempt.runId ≠ row.attempt.runId ∧ ¬ old.attempt.sameDispatch row.attempt) :
      Write P db { db with leases := db.leases ++ [row] }
  | operation (op : Operation) (r : OperationRequest) (row : LeaseRow) (hrow : row ∈ db.leases)
      (hrecords : Records P op r) (hlease : row.leaseId = op.leaseId)
      (hcontinues : db.continues row op)
      (hfree : ∀ old ∈ db.operations, old.operationId ≠ op.operationId ∧
        (old.leaseId = op.leaseId → op.kind = .advance → old.generation ≠ op.generation ∨
          old.kind ≠ .advance)) :
      Write P db { db with operations := db.operations ++ [op] }

theorem insertLease_ok (h : db.insertLease S row = .ok db') :
    (∀ old ∈ db.leases, old.leaseId ≠ row.leaseId ∧ old.attempt.runId ≠ row.attempt.runId ∧
      ¬ old.attempt.sameDispatch row.attempt) ∧
    db' = { db with leases := db.leases ++ [row] } := by
  obtain ⟨⟨-, -, hfree⟩, h⟩ := Except.of_require h
  cases h
  exact ⟨fun old hold => ⟨(hfree old hold).1, (hfree old hold).2.1, (hfree old hold).2.2.2⟩, rfl⟩

theorem insertOperation_ok {op : Operation} {r : OperationRequest} (hrecords : Records P op r)
    (h : db.insertOperation op = .ok db') :
    Write P db db' ∧ db' = { db with operations := db.operations ++ [op] } := by
  obtain ⟨⟨⟨row, hrow, hlease, hcontinues⟩, -, -, hfree⟩, h⟩ := Except.of_require h
  cases h
  refine ⟨.operation op r row hrow hrecords hlease hcontinues fun old hold => ?_, rfl⟩
  obtain ⟨hid, hsame⟩ := hfree old hold
  refine ⟨hid, fun hleases hadvance => ?_⟩
  by_cases hkind : old.kind = .advance
  · exact .inl ((hsame hleases).2 hkind hadvance)
  · exact .inr hkind

/-! ## What a call answers and writes -/

/-- The state is the projection of a stored lease. -/
def Projects (P : Platform) (db : LeaseDb) (now : String) (st : IsolatedWorkspaceState) : Prop :=
  ∃ row ∈ db.leases, project P db row now = .ok st

/-- The request an `append` is recognised by. -/
def requestOf (principal : DevicePrincipal) (command : WorkspaceOperationCommand) (kind : Kind)
    (generation : String) : OperationRequest where
  command
  kind
  generation
  deviceId := principal.deviceId
  ownerMemberId := principal.ownerMemberId

/-- An `append` that returned either found its operation recorded, or recorded it. -/
theorem append_ok {kind : Kind} {generation : String}
    (h : append P db principal command kind generation current now = .ok (st, db')) :
    (∃ previous ∈ db.operations, previous.operationId = command.operationId ∧
      previous.requestDigest = P.digest (.request (requestOf principal command kind generation)) ∧
      st = projectOperation P current.lease previous now ∧ db' = db) ∨
    ((∀ old ∈ db.operations, old.operationId ≠ command.operationId) ∧ Write P db db' ∧
      Projects P db' now st) := by
  unfold append at h
  obtain ⟨-, h⟩ := Except.of_require h
  cases hfind : db.operations.find? (fun op => op.operationId = command.operationId) with
  | some previous =>
    simp only [hfind] at h
    obtain ⟨⟨hdigest, -⟩, h⟩ := Except.of_require h
    cases h
    have hid : previous.operationId = command.operationId := by
      simpa using List.find?_some hfind
    exact .inl ⟨previous, List.mem_of_find?_eq_some hfind, hid, hdigest, rfl, rfl⟩
  | none =>
    simp only [hfind] at h
    obtain ⟨-, h⟩ := Except.of_require h
    obtain ⟨-, h⟩ := Except.of_require h
    obtain ⟨written, hinsert, h⟩ := Except.of_bind h
    obtain ⟨row, hrow, h⟩ := Except.of_bind h
    obtain ⟨state, hproject, h⟩ := Except.of_bind h
    cases h
    have hrecords := insertOperation_ok (P := P)
      (r := requestOf principal command kind generation) ⟨rfl, rfl, rfl, rfl, rfl⟩ hinsert
    refine .inr ⟨fun old hold => ?_, hrecords.1, row, (row_ok hrow).1, hproject⟩
    simpa using List.find?_eq_none.mp hfind old hold

theorem project_lease (h : project P db row now = .ok st) : st.lease = row.lease := by
  obtain ⟨-, h⟩ := Except.of_require h
  cases hlatest : db.latest row.leaseId with
  | some op | none =>
    simp only [hlatest] at h
    cases h
    rfl

/-- `requireActiveForDevice` answers with an active projection of the lease it was asked for. -/
theorem requireActiveForDevice_ok {leaseId : String}
    (h : requireActiveForDevice P S db principal leaseId now = .ok st) :
    st.state = .active ∧ ∃ row ∈ db.leases, row.leaseId = leaseId ∧
      project P db row now = .ok st := by
  unfold requireActiveForDevice at h
  obtain ⟨row, hrow, h⟩ := Except.of_bind h
  obtain ⟨_, -, h⟩ := Except.of_bind h
  obtain ⟨context, -, h⟩ := Except.of_demand h
  obtain ⟨_, -, h⟩ := Except.of_bind h
  obtain ⟨-, h⟩ := Except.of_require h
  obtain ⟨_, -, h⟩ := Except.of_bind h
  obtain ⟨_, -, h⟩ := Except.of_bind h
  obtain ⟨state, hproject, h⟩ := Except.of_bind h
  obtain ⟨hactive, h⟩ := Except.of_require h
  cases h
  exact ⟨hactive, row, (row_ok hrow).1, (row_ok hrow).2, hproject⟩

/-- `reserveForRun` answers with the lease of the Run, which it writes if there is none. -/
theorem reserveForRun_ok {inTransaction : Bool} {manifest : Manifest}
    (h : reserveForRun P S db inTransaction manifest now = .ok (st, db')) :
    Projects P db' now st ∧ (db' = db ∨ Write P db db') := by
  unfold reserveForRun at h
  obtain ⟨-, h⟩ := Except.of_require h
  obtain ⟨_, -, h⟩ := Except.of_bind h
  obtain ⟨owner, -, h⟩ := Except.of_bind h
  obtain ⟨hexpected, h⟩ := Except.of_require h
  obtain ⟨_, -, h⟩ := Except.of_bind h
  cases hrun : db.rowForRun manifest.scope.runId with
  | some existing =>
    simp only [hrun] at h
    obtain ⟨-, h⟩ := Except.of_require h
    obtain ⟨state, hproject, h⟩ := Except.of_bind h
    obtain ⟨-, h⟩ := Except.of_require h
    cases h
    exact ⟨⟨existing, List.mem_of_find?_eq_some hrun, hproject⟩, .inl rfl⟩
  | none =>
    simp only [hrun] at h
    obtain ⟨-, h⟩ := Except.of_require h
    obtain ⟨written, hinsert, h⟩ := Except.of_bind h
    obtain ⟨row, hrow, h⟩ := Except.of_bind h
    obtain ⟨state, hproject, h⟩ := Except.of_bind h
    cases h
    obtain ⟨hfree, rfl⟩ := insertLease_ok hinsert
    have hplanned : Planned P (newLeaseRow P manifest owner) :=
      ⟨manifest.scope, manifest.repository, rfl, hexpected.symm⟩
    exact ⟨⟨row, (row_ok hrow).1, hproject⟩, .inr (.lease _ hplanned hfree)⟩

end Facts

end AgentRoom.Workspace
