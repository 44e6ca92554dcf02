import AgentRoom.Lib.Packing
import AgentRoom.Lib.System
import AgentRoom.Workspace.LeaseFacts

/-!
# The law of isolated workspace leases

The lease tables under any sequence of calls, each finding the rest of the server in any state
and the clock at any time. A reservation is part of the admission of a Run, which may still be
rolled back.

`Inv` holds of every state a sequence of writes leaves. A lease that was revoked or released
keeps its operations from then on, so whatever a later call answers about it is read off a
revocation or a release; only the replay of an operation needs more, that its digest names it.
-/

namespace AgentRoom.Workspace

open Execution (Manifest ManifestScope)
open Packing (digits digits_injective packed packed_injective)

/-! ## The system -/

inductive Call where
  | reserveForRun (inTransaction : Bool) (manifest : Manifest) (commits : Bool)
  | advanceForDevice (principal : DevicePrincipal) (command : WorkspaceOperationCommand)
      (generation : String)
  | closeForDevice (principal : DevicePrincipal) (command : WorkspaceOperationCommand)
      (closing : Closing)
  | requireActiveForDevice (principal : DevicePrincipal) (leaseId : String)
  | requireRuntimeAuthority (principal : DevicePrincipal) (request : RuntimeAuthorityRequest)

/-- The data an operation is repeated with, if the call is one. -/
def Call.request : Call → Option OperationRequest
  | .advanceForDevice principal command generation =>
    some (requestOf principal command .advance generation)
  | .closeForDevice principal command closing =>
    some (requestOf principal command closing.kind command.expectedGeneration)
  | _ => none

/-- A call, at its time, with the rest of the server as it finds it. -/
structure Event where
  call : Call
  now : String
  surroundings : Surroundings

/-- What the call answers, with the tables its own writes leave. -/
def Event.answer (P : Platform) (e : Event) (db : LeaseDb) :
    Except Err (IsolatedWorkspaceState × LeaseDb) :=
  match e.call with
  | .reserveForRun inTransaction manifest _ =>
    reserveForRun P e.surroundings db inTransaction manifest e.now
  | .advanceForDevice principal command generation =>
    advanceForDevice P e.surroundings db principal command generation e.now
  | .closeForDevice principal command closing =>
    closeForDevice P e.surroundings db principal command closing e.now
  | .requireActiveForDevice principal leaseId =>
    (requireActiveForDevice P e.surroundings db principal leaseId e.now).map (·, db)
  | .requireRuntimeAuthority principal request =>
    (requireRuntimeAuthority P e.surroundings db principal request e.now).map (·, db)

/-- Whether the transaction the call runs in commits when the call returns. -/
def Call.commits : Call → Bool
  | .reserveForRun _ _ commits => commits
  | _ => true

def Event.after (P : Platform) (e : Event) (db : LeaseDb) : LeaseDb :=
  match e.answer P db with
  | .ok (_, db') => if e.call.commits then db' else db
  | .error _ => db

/-- **The lease service.** -/
def leases (P : Platform) : System LeaseDb Event where
  init db := db = {}
  step e db db' := db' = e.after P db

/-! ## The invariant -/

/-- What holds of the tables after any sequence of calls. -/
structure Inv (P : Platform) (db : LeaseDb) : Prop where
  runs : ∀ a ∈ db.leases, ∀ b ∈ db.leases, a.attempt.runId = b.attempt.runId → a = b
  dispatches : ∀ a ∈ db.leases, ∀ b ∈ db.leases, a.attempt.sameDispatch b.attempt → a = b
  ids : ∀ a ∈ db.leases, ∀ b ∈ db.leases, a.leaseId = b.leaseId → a = b
  planned : ∀ row ∈ db.leases, Planned P row
  lives : ∀ row ∈ db.leases,
    Life row.lease.workspaceGeneration (db.operationsOf row.leaseId)
  known : ∀ op ∈ db.operations, ∃ row ∈ db.leases, row.leaseId = op.leaseId
  recorded : ∀ op ∈ db.operations, ∃ r, Records P op r
  operationIds : ∀ a ∈ db.operations, ∀ b ∈ db.operations, a.operationId = b.operationId → a = b

section Steps

variable {P : Platform} {db db' : LeaseDb} {e : Event} {st : IsolatedWorkspaceState}

theorem inv_init : Inv P {} := by
  constructor <;> simp

theorem Attempt.sameDispatch.symm {a b : Attempt} (h : a.sameDispatch b) : b.sameDispatch a :=
  ⟨h.1.symm, h.2.1.symm, h.2.2.1.symm, h.2.2.2.symm⟩

theorem unique_snoc {α : Type} {l : List α} {new : α} {same : α → α → Prop}
    (hsymm : ∀ a b, same a b → same b a) (h : ∀ a ∈ l, ∀ b ∈ l, same a b → a = b)
    (hnew : ∀ a ∈ l, ¬ same a new) : ∀ a ∈ l ++ [new], ∀ b ∈ l ++ [new], same a b → a = b := by
  intro a ha b hb hab
  rcases List.mem_append.mp ha with ha | ha <;> rcases List.mem_append.mp hb with hb | hb
  · exact h a ha b hb hab
  · rw [List.mem_singleton.mp hb] at hab
    exact absurd hab (hnew a ha)
  · rw [List.mem_singleton.mp ha] at hab
    exact absurd (hsymm _ _ hab) (hnew b hb)
  · rw [List.mem_singleton.mp ha, List.mem_singleton.mp hb]

variable {row : LeaseRow}

theorem Inv.latest (hinv : Inv P db) (hrow : row ∈ db.leases) :
    db.latest row.leaseId = (db.operationsOf row.leaseId).getLast? :=
  (hinv.lives row hrow).argmax_revision

/-- What the database asks of a new operation continues the life of its lease. -/
theorem Inv.life_snoc (hinv : Inv P db) {op : Operation} (hrow : row ∈ db.leases)
    (hlease : row.leaseId = op.leaseId) (hcontinues : db.continues row op)
    (hfree : ∀ old ∈ db.operations, old.operationId ≠ op.operationId ∧
      (old.leaseId = op.leaseId → op.kind = .advance → old.generation ≠ op.generation ∨
        old.kind ≠ .advance)) :
    Life row.lease.workspaceGeneration (db.operationsOf row.leaseId ++ [op]) := by
  obtain ⟨hrevision, -, hopen, hfirst⟩ := hcontinues
  have hlife := hinv.lives row hrow
  rw [← hlease] at hrevision hopen
  have hnext : op.revision = 2 + (db.operationsOf row.leaseId).length := by
    have hlatest := hinv.latest hrow
    rcases List.eq_nil_or_concat (db.operationsOf row.leaseId) with hnil | ⟨ops, last, hops⟩
    · rw [hnil] at hlatest ⊢
      simpa [hlatest] using hrevision
    · have hnumbered := hlife.numbered
      rw [hops, List.concat_eq_append] at hlatest hnumbered ⊢
      rw [List.getLast?_concat] at hlatest
      rw [List.map_append, List.map_singleton, SeqLog.numbered_append, List.length_map]
        at hnumbered
      simp only [hlatest] at hrevision
      rw [List.length_append, List.length_singleton, hrevision]
      omega
  by_cases hkind : op.kind = .advance
  · refine .advanced hlife hopen hkind hnext fun hmem => ?_
    rcases List.mem_cons.mp hmem with hsame | hmem
    · exact hfirst hkind hsame
    · obtain ⟨old, hold, hsame⟩ := List.mem_map.mp hmem
      obtain ⟨hstored, holdLease⟩ := mem_operationsOf.mp hold
      rcases (hfree old hstored).2 (holdLease.trans hlease) hkind with hne | hne
      · exact hne hsame
      · exact hne (hopen old hold)
  · exact .closed hlife hopen hkind hnext

/-- **Every write keeps the invariant.** -/
theorem Inv.write (hinv : Inv P db) (h : Write P db db') : Inv P db' := by
  cases h with
  | lease row hplanned hfree =>
    exact {
      runs := unique_snoc (fun _ _ => Eq.symm) hinv.runs fun a ha => (hfree a ha).2.1
      dispatches := unique_snoc (fun _ _ => Attempt.sameDispatch.symm) hinv.dispatches
        fun a ha => (hfree a ha).2.2
      ids := unique_snoc (fun _ _ => Eq.symm) hinv.ids fun a ha => (hfree a ha).1
      planned := fun r hr => by
        rcases List.mem_append.mp hr with hr | hr
        · exact hinv.planned r hr
        · rwa [List.mem_singleton.mp hr]
      lives := fun r hr => by
        rcases List.mem_append.mp hr with hr | hr
        · exact hinv.lives r hr
        · -- nothing was recorded of a lease that did not exist
          obtain rfl := List.mem_singleton.mp hr
          have hnone : db.operationsOf r.leaseId = [] := by
            refine List.eq_nil_iff_forall_not_mem.mpr fun op hop => ?_
            obtain ⟨hstored, hlease⟩ := mem_operationsOf.mp hop
            obtain ⟨old, hold, hsame⟩ := hinv.known op hstored
            exact (hfree old hold).1 (hsame.trans hlease)
          have hlife : Life r.lease.workspaceGeneration (db.operationsOf r.leaseId) := by
            rw [hnone]
            exact .reserved
          exact hlife
      known := fun op hop => by
        obtain ⟨r, hr, hsame⟩ := hinv.known op hop
        exact ⟨r, List.mem_append_left _ hr, hsame⟩
      recorded := hinv.recorded
      operationIds := hinv.operationIds }
  | operation op r row hrow hrecords hlease hcontinues hfree =>
    exact {
      runs := hinv.runs
      dispatches := hinv.dispatches
      ids := hinv.ids
      planned := hinv.planned
      lives := fun other hother => by
        rw [operationsOf_snoc]
        split
        · next hsame =>
            obtain rfl := hinv.ids row hrow other hother (hlease.trans hsame)
            exact hinv.life_snoc hrow hlease hcontinues hfree
        · exact hinv.lives other hother
      known := fun o ho => by
        rcases List.mem_append.mp ho with ho | ho
        · exact hinv.known o ho
        · exact ⟨row, hrow, by rw [hlease, List.mem_singleton.mp ho]⟩
      recorded := fun o ho => by
        rcases List.mem_append.mp ho with ho | ho
        · exact hinv.recorded o ho
        · exact ⟨r, by rwa [List.mem_singleton.mp ho]⟩
      operationIds := unique_snoc (fun _ _ => Eq.symm) hinv.operationIds
        fun a ha => (hfree a ha).1 }

/-! ## What a call leaves -/

theorem of_map {α β : Type} {x : Except Err α} {f : α → β} {b : β} (h : x.map f = .ok b) :
    ∃ a, x = .ok a ∧ f a = b := by
  cases x with
  | error e => cases h
  | ok a => exact ⟨a, rfl, by cases h; rfl⟩

theorem requireRuntimeAuthority_ok {S : Surroundings} {principal : DevicePrincipal}
    {request : RuntimeAuthorityRequest} {now : String}
    (h : requireRuntimeAuthority P S db principal request now = .ok st) :
    Projects P db now st := by
  unfold requireRuntimeAuthority at h
  obtain ⟨row, -, h⟩ := Except.of_bind h
  obtain ⟨_, -, h⟩ := Except.of_bind h
  obtain ⟨-, h⟩ := Except.of_require h
  obtain ⟨current, hcurrent, h⟩ := Except.of_bind h
  obtain ⟨-, h⟩ := Except.of_require h
  obtain ⟨-, h⟩ := Except.of_require h
  cases h
  obtain ⟨-, row, hrow, -, hproject⟩ := requireActiveForDevice_ok hcurrent
  exact ⟨row, hrow, hproject⟩

/-- What a call that returned has to say of the tables: it replayed a recorded operation, or it
answered with the projection of a lease in the tables its one write, if any, left. -/
theorem answer_ok (h : e.answer P db = .ok (st, db')) :
    (∃ r lease previous, e.call.request = some r ∧ previous ∈ db.operations ∧
      previous.operationId = r.command.operationId ∧
      previous.requestDigest = P.digest (.request r) ∧
      (r.kind = .advance → ∃ current, ∃ row ∈ db.leases, row.lease = lease ∧
        project P db row e.now = .ok current ∧ current.state = .active) ∧
      st = projectOperation P lease previous e.now ∧ db' = db) ∨
    ((∀ r, e.call.request = some r →
        ∀ old ∈ db.operations, old.operationId ≠ r.command.operationId) ∧
      Projects P db' e.now st ∧ (db' = db ∨ Write P db db')) := by
  obtain ⟨call, now, surroundings⟩ := e
  cases call with
  | reserveForRun inTransaction manifest commits =>
    exact .inr ⟨nofun, reserveForRun_ok h⟩
  | advanceForDevice principal command generation =>
    obtain ⟨current, hcurrent, h⟩ := Except.of_bind h
    -- an advance is answered while the lease is active, a repeat too
    obtain ⟨hactive, row, hrow, -, hproject⟩ := requireActiveForDevice_ok hcurrent
    rcases append_ok h with ⟨previous, hprevious, hid, hdigest, hst, hdb⟩ | ⟨hnew, hw, hp⟩
    · exact .inl ⟨_, _, previous, rfl, hprevious, hid, hdigest,
        fun _ => ⟨current, row, hrow, (project_lease hproject).symm, hproject, hactive⟩, hst, hdb⟩
    · refine .inr ⟨fun r hr => ?_, hp, .inr hw⟩
      cases hr
      exact hnew
  | closeForDevice principal command closing =>
    -- a close does not ask that the lease is active
    obtain ⟨row, -, h⟩ := Except.of_bind h
    obtain ⟨_, -, h⟩ := Except.of_bind h
    obtain ⟨current, -, h⟩ := Except.of_bind h
    rcases append_ok h with ⟨previous, hprevious, hid, hdigest, hst, hdb⟩ | ⟨hnew, hw, hp⟩
    · refine .inl ⟨_, _, previous, rfl, hprevious, hid, hdigest, fun hkind => ?_, hst, hdb⟩
      cases closing <;> cases hkind
    · refine .inr ⟨fun r hr => ?_, hp, .inr hw⟩
      cases hr
      exact hnew
  | requireActiveForDevice principal leaseId =>
    obtain ⟨state, hstate, h⟩ := of_map h
    cases h
    obtain ⟨-, row, hrow, -, hproject⟩ := requireActiveForDevice_ok hstate
    exact .inr ⟨nofun, ⟨row, hrow, hproject⟩, .inl rfl⟩
  | requireRuntimeAuthority principal request =>
    obtain ⟨state, hstate, h⟩ := of_map h
    cases h
    obtain ⟨row, hrow, hproject⟩ := requireRuntimeAuthority_ok hstate
    exact .inr ⟨nofun, ⟨row, hrow, hproject⟩, .inl rfl⟩

theorem after_cases (e : Event) (db : LeaseDb) :
    e.after P db = db ∨ Write P db (e.after P db) := by
  unfold Event.after
  split
  · next st db' h =>
      split
      · rcases answer_ok h with ⟨_, _, _, _, _, _, _, _, _, hsame⟩ | ⟨-, -, hw⟩
        · exact .inl hsame
        · exact hw
      · exact .inl rfl
  · exact .inl rfl

theorem inv_reachable (h : (leases P).Reachable db) : Inv P db := by
  refine System.invariant (Inv P) (fun s hs => ?_) (fun e s s' hs hinv => ?_) h
  · obtain rfl : s = {} := hs
    exact inv_init
  · obtain rfl : s' = e.after P s := hs
    rcases after_cases e s with hsame | hw
    · rwa [hsame]
    · exact hinv.write hw

/-! ## Closed leases -/

/-- A lease with a revocation or a release among its operations. -/
def Closed (db : LeaseDb) (leaseId : String) : Prop :=
  ∃ op ∈ db.operationsOf leaseId, op.kind ≠ .advance

theorem closed_write {leaseId : String} (hclosed : Closed db leaseId)
    (h : Write P db db') : db'.operationsOf leaseId = db.operationsOf leaseId := by
  cases h with
  | lease row hplanned hfree => rfl
  | operation op r row hrow hrecords hlease hcontinues hfree =>
    rw [operationsOf_snoc]
    split
    · next hsame =>
        obtain ⟨last, hlast, hkind⟩ := hclosed
        rw [← hsame] at hlast
        exact absurd (hcontinues.2.2.1 last hlast) hkind
    · rfl

theorem Write.keeps (h : Write P db db') {op : Operation} (hop : op ∈ db.operations) :
    op ∈ db'.operations := by
  cases h with
  | lease => exact hop
  | operation => exact List.mem_append_left _ hop

theorem Inv.project_closed (hinv : Inv P db) (hrow : row ∈ db.leases)
    (hclosed : Closed db row.leaseId) {now : String} (h : project P db row now = .ok st) :
    st.state ≠ .active := by
  obtain ⟨op, hop, hkind⟩ := hclosed
  have hlast := (hinv.lives row hrow).getLast?_of_closed hop hkind
  rw [← hinv.latest hrow] at hlast
  obtain ⟨-, h⟩ := Except.of_require h
  simp only [hlast] at h
  cases h
  unfold projectOperation
  cases hk : op.kind with
  | advance => exact absurd hk hkind
  | revoke | release => simp

end Steps

/-! ## The law -/

/-- **The law of a lease.** -/
structure LeaseLaw (P : Platform) (db : LeaseDb) : Prop where
  /-- The operations of a lease carry the revisions 2, 3, … -/
  revisions : ∀ leaseId, SeqLog.Numbered 2 ((db.operationsOf leaseId).map Operation.revision)
  /-- A lease that was revoked or released gets no further operation and is never answered to be
  active. -/
  closed : ∀ leaseId, Closed db leaseId → ∀ db', (leases P).Steps db db' →
    db'.operationsOf leaseId = db.operationsOf leaseId ∧
    ∀ (e : Event) (st : IsolatedWorkspaceState) (db'' : LeaseDb),
      e.answer P db' = .ok (st, db'') → st.lease.leaseId = leaseId → st.state ≠ .active
  /-- An advance brings a generation the lease did not have before. -/
  fresh : ∀ row ∈ db.leases,
    (generations row.lease.workspaceGeneration (db.operationsOf row.leaseId)).Nodup
  oneForRun : ∀ a ∈ db.leases, ∀ b ∈ db.leases, a.attempt.runId = b.attempt.runId → a = b
  oneForDispatch : ∀ a ∈ db.leases, ∀ b ∈ db.leases, a.attempt.sameDispatch b.attempt → a = b
  /-- The identities are computed from the attempt, the generation from the repository too. -/
  identities : ∀ row ∈ db.leases,
    row.lease.leaseId = "lease_" ++ P.digest (.attempt row.attempt) ∧
    row.lease.workspaceRef = "workspace_" ++ P.digest (.attempt row.attempt) ∧
    ∃ repository, row.lease.workspaceGeneration =
      P.digest (.firstGeneration (P.digest (.attempt row.attempt)) repository)
  /-- An operation id that is recorded records nothing again, and is refused with other data. -/
  replays : ∀ op ∈ db.operations, ∃ r, Records P op r ∧
    ∀ (e : Event) (c : OperationRequest), e.call.request = some c →
      c.command.operationId = op.operationId →
      e.after P db = db ∧ (c ≠ r → ∃ error, e.answer P db = .error error)

section Law

variable {P : Platform} {db db' : LeaseDb}

theorem closed_along {leaseId : String} (hclosed : Closed db leaseId)
    (hreach : (leases P).Reachable db) (h : (leases P).Steps db db') :
    db'.operationsOf leaseId = db.operationsOf leaseId := by
  have hrun : ∀ id, Closed db id → db'.operationsOf id = db.operationsOf id := by
    refine System.along_run (L := leases P)
      (R := fun s s' => ∀ id, Closed s id → s'.operationsOf id = s.operationsOf id)
      (fun _ _ _ => rfl) (fun a b c hab hbc id hc => ?_) (fun e s s' _ hs id hc => ?_) hreach h
    · have hb : Closed b id := by
        unfold Closed
        rwa [hab id hc]
      rw [hbc id hb, hab id hc]
    · obtain rfl : s' = e.after P s := hs
      rcases after_cases e s with hsame | hw
      · rw [hsame]
      · exact closed_write hc hw
  exact hrun leaseId hclosed

/-- A closed lease is never answered to be active. -/
theorem not_active_of_closed
    (hdigest : ∀ a b, P.digest (.request a) = P.digest (.request b) → a = b)
    (hinv : Inv P db) {leaseId : String} (hclosed : Closed db leaseId) {e : Event}
    {st : IsolatedWorkspaceState} (h : e.answer P db = .ok (st, db'))
    (hlease : st.lease.leaseId = leaseId) : st.state ≠ .active := by
  subst hlease
  rcases answer_ok h with ⟨r, lease, previous, -, hprevious, -, hsame, hadvance, rfl, -⟩ |
    ⟨-, ⟨row, hrow, hproject⟩, hwritten⟩
  · by_cases hkind : r.kind = .advance
    · obtain ⟨current, row, hrow, rfl, hproject, hactive⟩ := hadvance hkind
      exact absurd hactive (hinv.project_closed hrow hclosed hproject)
    · -- the digest names the replayed operation, so it is a revocation or a release too
      obtain ⟨r', hrecords⟩ := hinv.recorded previous hprevious
      obtain rfl := hdigest r' r (hrecords.digest.symm.trans hsame)
      rw [← hrecords.kind] at hkind
      unfold projectOperation
      cases hk : previous.kind with
      | advance => exact absurd hk hkind
      | revoke | release => simp
  · rw [project_lease hproject] at hclosed
    rcases hwritten with rfl | hwrite
    · exact hinv.project_closed hrow hclosed hproject
    · obtain ⟨op, hop, hkind⟩ := hclosed
      obtain ⟨hstored, hlease⟩ := mem_operationsOf.mp hop
      have hstill : Closed db' row.leaseId :=
        ⟨op, mem_operationsOf.mpr ⟨hwrite.keeps hstored, hlease⟩, hkind⟩
      exact (hinv.write hwrite).project_closed hrow hstill hproject

/-- A recorded operation id, used again. -/
theorem replay_of_recorded
    (hdigest : ∀ a b, P.digest (.request a) = P.digest (.request b) → a = b)
    (hinv : Inv P db) {op : Operation} (hop : op ∈ db.operations) {r : OperationRequest}
    (hrecords : Records P op r) {e : Event} {c : OperationRequest} (hc : e.call.request = some c)
    (hid : c.command.operationId = op.operationId) :
    e.after P db = db ∧ (c ≠ r → ∃ error, e.answer P db = .error error) := by
  rcases hanswer : e.answer P db with error | ⟨st, db'⟩
  · refine ⟨?_, fun _ => ⟨error, rfl⟩⟩
    simp only [Event.after, hanswer]
  · rcases answer_ok hanswer with
      ⟨c', lease, previous, hc', hprevious, hsameId, hsame, -, -, rfl⟩ | ⟨hnew, -, -⟩
    · obtain rfl : c = c' := by
        rw [hc] at hc'
        cases hc'
        rfl
      obtain rfl := hinv.operationIds previous hprevious op hop (hsameId.trans hid)
      have hsameData := hdigest c r (hsame.symm.trans hrecords.digest)
      refine ⟨?_, fun hne => absurd hsameData hne⟩
      simp only [Event.after, hanswer]
      split <;> rfl
    · exact absurd hid.symm (hnew c hc op hop)

end Law

/-- **The law holds of every state any sequence of calls leaves**, when no two requests share a
digest. -/
theorem lease_law {P : Platform}
    (hdigest : ∀ a b, P.digest (.request a) = P.digest (.request b) → a = b) {db : LeaseDb}
    (h : (leases P).Reachable db) : LeaseLaw P db := by
  have hinv := inv_reachable h
  refine ⟨fun leaseId => ?_, fun leaseId hclosed db' hsteps => ⟨?_, fun e st db'' he hlease => ?_⟩,
    fun row hrow => (hinv.lives row hrow).nodup_generations, hinv.runs, hinv.dispatches,
    fun row hrow => ?_, fun op hop => ?_⟩
  · by_cases hrow : ∃ row ∈ db.leases, row.leaseId = leaseId
    · obtain ⟨row, hrow, rfl⟩ := hrow
      exact (hinv.lives row hrow).numbered
    · -- an operation would have the row of its lease
      have hnone : db.operationsOf leaseId = [] := by
        refine List.eq_nil_iff_forall_not_mem.mpr fun op hop => ?_
        obtain ⟨hstored, hlease⟩ := mem_operationsOf.mp hop
        obtain ⟨row, hstoredRow, hsame⟩ := hinv.known op hstored
        exact hrow ⟨row, hstoredRow, hsame.trans hlease⟩
      rw [hnone]
      exact SeqLog.numbered_nil 2
  · exact closed_along hclosed h hsteps
  · have hreach := System.reachable_steps h hsteps
    have hstill : Closed db' leaseId := by
      unfold Closed
      rwa [closed_along hclosed h hsteps]
    exact not_active_of_closed hdigest (inv_reachable hreach) hstill he hlease
  · obtain ⟨scope, repository, hattempt, hlease⟩ := hinv.planned row hrow
    rw [hlease, ← hattempt]
    exact ⟨rfl, rfl, repository, rfl⟩
  · obtain ⟨r, hrecords⟩ := hinv.recorded op hop
    exact ⟨r, hrecords, fun e c hc hid => replay_of_recorded hdigest hinv hop hrecords hc hid⟩

/-! ## One lease, advanced and released -/

namespace Sample

def kindText : Kind → List Char
  | .advance => ['a']
  | .revoke => ['v']
  | .release => ['l']

theorem kindText_injective {a b : Kind} (h : kindText a = kindText b) : a = b := by
  cases a <;> cases b <;> first | rfl | cases h

def requestParts (r : OperationRequest) : List (List Char) :=
  [r.command.operationId.toList, r.command.leaseId.toList, digits r.command.expectedRevision,
    r.command.expectedGeneration.toList, kindText r.kind, r.generation.toList,
    r.deviceId.toList, r.ownerMemberId.toList]

theorem requestParts_injective {a b : OperationRequest} (h : requestParts a = requestParts b) :
    a = b := by
  simp only [requestParts, List.cons.injEq, String.toList_inj, and_true] at h
  obtain ⟨h1, h2, h3, h4, h5, h6, h7, h8⟩ := h
  obtain ⟨⟨_, _, _, _⟩, _, _, _, _⟩ := a
  obtain ⟨⟨_, _, _, _⟩, _, _, _, _⟩ := b
  obtain rfl := digits_injective h3
  obtain rfl := kindText_injective h5
  simp_all

/-- The digests of the sample; only those of requests tell their values apart. -/
def digest : Digested → String
  | .attempt _ => "aaaaaaaaaaaaaaaaaaaaaaaaaaaaaaaaaaaaaaaaaaaaaaaaaaaaaaaaaaaaaaaa"
  | .firstGeneration _ _ => "bbbbbbbbbbbbbbbbbbbbbbbbbbbbbbbbbbbbbbbbbbbbbbbbbbbbbbbbbbbbbbbb"
  | .lease _ => "dddddddddddddddddddddddddddddddddddddddddddddddddddddddddddddddd"
  | .manifest _ => "eeeeeeeeeeeeeeeeeeeeeeeeeeeeeeeeeeeeeeeeeeeeeeeeeeeeeeeeeeeeeeee"
  | .inputs _ => "ffffffffffffffffffffffffffffffffffffffffffffffffffffffffffffffff"
  | .request r => String.ofList (packed (requestParts r))

def platform : Platform where
  digest
  conforms := fun _ => true
  parse := fun text =>
    if text = "2026-08-31T12:00:00.000Z" then some 1788177600000
    else if text = "2026-08-31T12:05:00.000Z" then some 1788177900000
    else none

theorem platform_distinct (a b : OperationRequest)
    (h : platform.digest (.request a) = platform.digest (.request b)) : a = b :=
  requestParts_injective (packed_injective (String.ofList_inj.mp h))

def scope : ManifestScope where
  planId := "plan_sample0001"
  planRevision := 1
  planDigest := "1111111111111111111111111111111111111111111111111111111111111111"
  planControlRevision := 1
  approvalOperationId := "op_approval0001"
  nodeKey := "Build"
  dispatchGeneration := 1
  roomId := "room_sample0001"
  taskId := "task_sample0001"
  taskRevision := 1
  definitionRevision := 1
  criteriaRevision := 1
  runId := "run_sample0001"
  deviceId := "device_sample0001"
  agentId := "agent_sample0001"

def node : Plan.PlanNode where
  nodeKey := "Build"
  kind := .implementation
  required := true
  task := .existing ⟨"task_sample0001", 1, 1, 1⟩
  agentId := "agent_sample0001"
  repository :=
    { repositoryId := "repository_sample0001"
      bindingId := "binding_sample0001"
      baseCommit := "2222222222222222222222222222222222222222"
      grantId := "grant_sample0001"
      grantRevision := 1
      runtimeProfileId := "profile_sample0001"
      runtimeProfileDigest := "3333333333333333333333333333333333333333333333333333333333333333" }
  scope := ⟨.isolatedWrite, ["src"], [], false⟩
  budget := ⟨1, 300⟩
  verificationProfiles := []
  inputs := []
  outputs := [⟨"patch", .patch, true⟩]

def issuedAt : String := "2026-08-31T12:00:00.000Z"
def expiresAt : String := "2026-08-31T12:05:00.000Z"

def manifest : Manifest where
  scope := scope
  repository := node.repository
  grant := ⟨"grant_sample0001", 1,
    "4444444444444444444444444444444444444444444444444444444444444444",
    expiresAt⟩
  scopePolicy := node.scope
  verificationProfiles := []
  outputs := node.outputs
  inputs := []
  inputDigest := digest (.inputs [])
  workspace := planIsolatedWorkspace platform scope node.repository issuedAt expiresAt
  capture := none
  deadline := expiresAt
  manifestDigest := "eeeeeeeeeeeeeeeeeeeeeeeeeeeeeeeeeeeeeeeeeeeeeeeeeeeeeeeeeeeeeeee"

def capability : Capability := ⟨["prepare", "capture", "verify"], false, ""⟩

/-- The server once the Run's Context Manifest is there. -/
def surroundings : Surroundings where
  plan := fun _ => some ⟨1, scope.planDigest, .approved, 1, "task_root0001", "member_owner0001",
    [node]⟩
  deviceCapability := fun _ => some capability
  agentCapability := fun _ _ => some capability
  scopeRow := fun _ => some ⟨"member_owner0001", "team_sample0001", expiresAt, 1, some capability,
    some manifest⟩
  device := fun _ => some ⟨"member_owner0001", "team_sample0001", true⟩
  context := fun _ => some ⟨manifest, scope.runId, scope.taskId, 1, 1, 1, scope.deviceId,
    scope.agentId⟩
  canceled := fun _ => false
  admits := fun _ => true

def principal : DevicePrincipal := ⟨"device_sample0001", "member_owner0001", "team_sample0001"⟩

def advanced : String := "cccccccccccccccccccccccccccccccccccccccccccccccccccccccccccccccc"

def reserve : Event := ⟨.reserveForRun true manifest true, issuedAt, surroundings⟩

def advance : Event :=
  ⟨.advanceForDevice principal ⟨"op_advance0001", manifest.workspace.leaseId, 1,
    manifest.workspace.workspaceGeneration⟩ advanced, issuedAt, surroundings⟩

def release : Event :=
  ⟨.closeForDevice principal ⟨"op_release0001", manifest.workspace.leaseId, 2, advanced⟩ .release,
    issuedAt, surroundings⟩

/-- The tables after the three calls. -/
def released : LeaseDb :=
  release.after platform (advance.after platform (reserve.after platform {}))

theorem released_reachable : (leases platform).Reachable released := by
  have hreserved : (leases platform).Reachable (reserve.after platform {}) :=
    System.reachable_step (System.reachable_init rfl) rfl
  have hadvanced : (leases platform).Reachable
      (advance.after platform (reserve.after platform {})) :=
    System.reachable_step hreserved rfl
  exact System.reachable_step hadvanced rfl

end Sample

theorem lease_law_released : LeaseLaw Sample.platform Sample.released ∧
    Sample.released.operations.map Operation.kind = [.advance, .release] :=
  ⟨lease_law Sample.platform_distinct Sample.released_reachable, by decide +kernel⟩

end AgentRoom.Workspace
