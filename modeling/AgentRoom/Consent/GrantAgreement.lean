import AgentRoom.Consent.Dispatch
import AgentRoom.Execution.PlanInvariant

/-!
# Server and Bridge on one grant

A manifest that the server admits and sends under a published grant, and the check of the Bridge
that published it. The two agree on everything the published summary shows; on what it does not
show, the server has nothing to compare, and the Bridge's check decides.
-/

namespace AgentRoom.Consent

open Execution (Contracts ExecutionDb Manifest)
open Workspace (Platform)

/-! ## Records of grants -/

/-- What a record that could be read is known to be. -/
structure Kept (B : Bridge) (record : TaskGrantRecord) : Prop where
  owner : record.owner = B.owner
  frozen : ∃ policy,
    Repository.freezeScopePolicy B.unicode (pathPolicy record.spec.scopePolicy) = .ok policy
  distinct : (record.spec.verificationProfiles.map (·.profileId)).Nodup
  expires : ∃ t, B.parseTime record.spec.expiresAt = some t
  written : B.utcTimestamp record.spec.expiresAt = true

section Records

variable {B : Bridge} {s s' : Stores} {record : TaskGrantRecord} {view : TaskGrantView}
  {id : String} {revoked : Option TaskGrantRevocation}

theorem normalizeTaskGrant_kept {spec normalized : TaskGrantSpec} {owner : Owner} {issuedAt : Time}
    (h : normalizeTaskGrant B spec owner issuedAt = .ok normalized) :
    (∃ policy, Repository.freezeScopePolicy B.unicode (pathPolicy spec.scopePolicy) =
      .ok policy) ∧ (normalized.verificationProfiles.map (·.profileId)).Nodup := by
  iterate 4 obtain ⟨-, h⟩ := Except.of_require h
  obtain ⟨policy, hpolicy, h⟩ := Except.of_expect h
  obtain ⟨hdistinct, h⟩ := Except.of_require h
  obtain ⟨-, h⟩ := Except.of_require h
  cases h
  exact ⟨⟨policy, hpolicy⟩, hdistinct⟩

theorem kept_of_view (h : (grantReader B).view id record revoked = .ok view) : Kept B record := by
  obtain ⟨howner, -, -, hnormal, hsummary, -⟩ := TaskGrants.of_view h
  obtain ⟨hfrozen, hdistinct⟩ := normalizeTaskGrant_kept hnormal
  refine ⟨howner, hfrozen, hdistinct, ?_, ?_⟩
  · -- the reader compares the two times
    iterate 3 obtain ⟨-, h⟩ := Except.of_require h
    obtain ⟨normalized, -, h⟩ := Except.of_expect h
    obtain ⟨⟨-, hbefore⟩, -⟩ := Except.of_require h
    obtain ⟨t, ht, -⟩ := (Option.any_eq_true _ _).mp hbefore
    exact ⟨t, ht⟩
  · have hschema := (TaskGrants.taskGrantSummary_ok hsummary).2.2
    unfold ExecutionGrantSummary.schema at hschema
    simp only [Bool.and_eq_true] at hschema
    tauto

/-- A command leaves every record as it was issued. -/
theorem OwnerCommand.run_grants {command : OwnerCommand} {now : Time}
    (h : command.run B s now = .ok s') :
    s'.grants = s.grants ∨
      ∃ id record revoked view,
        (∀ row, Table.get s.grants id = some row → row.1 = record) ∧
        Registry.write (grantReader B) s.grants id record revoked = .ok (view, s'.grants) := by
  cases command with
  | issueTaskGrant host roster spec =>
    obtain ⟨⟨view, grants⟩, hcall, h⟩ := Except.of_bind h
    cases h
    obtain ⟨agent, -, hcall⟩ := Except.of_demand hcall
    obtain ⟨-, hcall⟩ := Except.of_require hcall
    obtain ⟨normalized, -, hsame | ⟨-, hfree, hwrite⟩⟩ := TaskGrants.issueTaskGrant_ok hcall
    · exact .inl hsame
    · refine .inr ⟨_, _, _, view, fun row hrow => ?_, hwrite⟩
      rw [hfree] at hrow
      cases hrow
  | revokeTaskGrant grantId expectedRevision expectedDigest =>
    obtain ⟨⟨view, grants⟩, hcall, h⟩ := Except.of_bind h
    cases h
    obtain hsame | ⟨row, revoked, hget, hwrite⟩ := TaskGrants.revokeTaskGrant_ok hcall
    · exact .inl hsame
    · refine .inr ⟨_, _, _, view, fun row' hrow' => ?_, hwrite⟩
      rw [hget] at hrow'
      cases hrow'
      rfl
  | _ =>
    obtain ⟨⟨view, changed⟩, -, h⟩ := Except.of_bind h
    cases h
    exact .inl rfl

/-- **A grant stays as it was issued.** -/
theorem record_kept (hsteps : (consent B).Steps s s')
    (h : Table.get s.grants id = some (record, revoked)) :
    ∃ revoked', Table.get s'.grants id = some (record, revoked') := by
  induction hsteps with
  | refl => exact ⟨revoked, h⟩
  | tail _ hstep ih =>
    obtain ⟨call, hrun⟩ := hstep
    obtain ⟨before, hbefore⟩ := ih
    obtain hsame | ⟨id', record', revoked', view, hrecord, hwrite⟩ :=
      OwnerCommand.run_grants hrun
    · exact ⟨before, by rw [hsame]; exact hbefore⟩
    · obtain ⟨-, hgrants⟩ := Registry.write_ok hwrite
      rw [hgrants, Table.get_put]
      split
      · rename_i hid
        subst hid
        exact ⟨revoked', by rw [← hrecord _ hbefore]⟩
      · exact ⟨before, hbefore⟩

/-- **What is published of a grant**: the summary of its record, which is not revoked. -/
theorem published_record {host : ConsentHost} {roster : Roster} {now : Time} {ready : AgentGrants}
    {summary : ExecutionGrantSummary} {agentId : String}
    (hready : readyAgentGrants B host s roster now = .ok ready)
    (hmem : summary ∈ grantsOf ready agentId) :
    ∃ record, Table.get s.grants summary.grant.grantId = some (record, none) ∧
      summary = record.summary B ∧ Kept B record := by
  obtain ⟨_, -, hready⟩ := Except.of_bind hready
  obtain ⟨views, hviews, hready⟩ := Except.of_bind hready
  obtain ⟨_, -, hready⟩ := Except.of_bind hready
  obtain ⟨_, -, hready⟩ := Except.of_bind hready
  split at hready
  swap
  · cases hready
    cases hmem
  obtain ⟨selected, hselected, hready⟩ := Except.of_bind hready
  cases hready
  have haccepted : summary ∈ accepted (usable B host s roster now) views agentId := by
    obtain ⟨hgrants, -, -⟩ := selectReady_ok hselected
    have hall := hgrants agentId
    unfold grantsOf at hmem hall
    rw [Table.get_mapRows] at hmem
    cases hget : selected.get agentId with
    | none => simp [hget] at hmem
    | some grants =>
      rw [hget] at hmem hall
      have hsorted := (List.mem_insertionSort _).mp hmem
      simp only [Option.getD_some, Table.get_empty, Option.getD_none, List.nil_append] at hall
      rwa [← hall]
  obtain ⟨g, hg, husable, -, rfl⟩ := mem_accepted.mp haccepted
  obtain ⟨id, -, hget⟩ := Except.exists_of_mem_mapM (TaskGrants.list_ok hviews) hg
  obtain ⟨⟨record, revoked⟩, hrow, hview⟩ := Registry.get_eq_ok.mp hget
  obtain ⟨-, hid, -, -, -, ⟨rfl, hsummary⟩ | ⟨r, -, hsummary⟩⟩ := TaskGrants.of_view hview
  · refine ⟨record, ?_, hsummary, kept_of_view hview⟩
    rw [hsummary]
    change Table.get s.grants record.spec.grantId = some (record, none)
    rw [show record.spec.grantId = id from hid]
    exact hrow
  · -- a revoked grant is not usable
    have hcurrent := (configured_of_usable husable).2.1
    rw [hsummary] at hcurrent
    cases hcurrent

end Records

/-! ## What is dispatched -/

section Dispatch

variable (P : Platform) (D : Dates) (K : Contracts) (B : Bridge)

/-- **A manifest that was dispatched**: admitted over the tables, and put on the socket of a Bridge
whose ready grants are those it published. -/
structure Dispatched (db : ExecutionDb) (ready : AgentGrants) (manifest : Manifest) : Prop where
  admitted : ∃ host C input, admitRun P D K host C db input = .ok (some manifest)
  sent : ∃ C nowMs,
    send P D C B.owner.deviceId manifest.scope.agentId manifest nowMs = true ∧
    ∀ g ∈ C.governedAgentReadyGrants B.owner.deviceId manifest.scope.agentId,
      g ∈ grantsOf ready manifest.scope.agentId

/-- What the tables say of an admitted manifest. -/
structure Admitted (db : ExecutionDb) (manifest : Manifest) : Prop where
  sound : manifestSound P manifest
  grantId : manifest.repository.grantId = manifest.grant.grantId
  revision : manifest.repository.grantRevision = manifest.grant.revision
  deadline : ∃ (ms expiry : Int), 0 ≤ ms ∧ ms ≤ expiry ∧
    P.parse manifest.grant.expiresAt = some expiry ∧ manifest.deadline = D.toISOString ms
  /-- The plan is at the revision of the manifest, and has compiled the node to its Task. -/
  current : ∃ plan, Execution.getPlan db manifest.scope.planId = .ok (some plan) ∧
    plan.current.revision = manifest.scope.planRevision ∧
    plan.current.digest = manifest.scope.planDigest ∧
    ∃ task ∈ plan.compiledTasks, task.nodeKey = manifest.scope.nodeKey ∧
      task.taskId = manifest.scope.taskId ∧
      task.definitionRevision = manifest.scope.definitionRevision ∧
      task.criteriaRevision = manifest.scope.criteriaRevision

/-- The consent can still be used: it is not revoked, it is in force, the deadline has not passed,
and the binding is as it was. -/
structure InForce (host : BindingHost) (s : Stores) (record : TaskGrantRecord)
    (manifest : Manifest) (now : Time) : Prop where
  unrevoked : Table.get s.grants manifest.grant.grantId = some (record, none)
  issued : record.issuedAt ≤ now
  expires : (B.parseTime record.spec.expiresAt).any (now < ·) = true
  deadline : (B.parseTime manifest.deadline).any (now < ·) = true
  binding : checkGrantBinding B host s.bindings record.spec = .ok ()

end Dispatch

section Admission

variable {P : Platform} {D : Dates} {K : Contracts} {host : AdmissionHost} {C : Connections}
  {db : ExecutionDb} {input : AdmissionInput} {manifest : Manifest}

/-- The grant of an admission is the one its node names, and in force. -/
theorem exactGrant_ok {planId deviceId : String} {node : Plan.PlanNode} {nowMs : Int}
    {grant : ExecutionGrantSummary} (h : exactGrant P D C planId node deviceId nowMs = .ok grant) :
    grant.grant.grantId = node.repository.grantId ∧
      grant.grant.revision = node.repository.grantRevision := by
  unfold exactGrant at h
  split at h
  · cases h
  · rename_i found hmatching
    cases h
    have hmem : grant ∈ matchingGrants P D C planId node deviceId nowMs := by
      rw [hmatching]
      exact List.mem_singleton_self _
    unfold matchingGrants at hmem
    simp only [List.mem_filter, Bool.and_eq_true, decide_eq_true_eq] at hmem
    exact ⟨hmem.2.1.1.1.2, hmem.2.1.1.2⟩
  · cases h

/-- **What the first half of an admission froze.** -/
structure FrozenFacts (P : Platform) (db : ExecutionDb) (input : AdmissionInput) (f : Frozen) :
    Prop where
  plan : Execution.getPlan db f.plan.planId = .ok (some f.plan)
  grantId : f.grant.grant.grantId = f.node.repository.grantId
  revision : f.grant.grant.revision = f.node.repository.grantRevision
  deadline : ∃ expiry : Int, P.parse f.grant.grant.expiresAt = some expiry ∧
    (f.deadlineAt : Int) ≤ expiry
  task : ∃ task ∈ f.plan.compiledTasks, task.nodeKey = f.node.nodeKey ∧
    task.taskId = input.task.taskId ∧
    task.definitionRevision = input.task.definitionRevision ∧
    task.criteriaRevision = input.task.criteriaRevision

theorem freeze_ok {f : Frozen} (h : freeze P D K host C db input = .ok f) :
    FrozenFacts P db input f := by
  obtain ⟨-, h⟩ := Except.of_require h
  obtain ⟨-, h⟩ := Except.of_require h
  obtain ⟨found, hplan, h⟩ := Except.of_bind h
  obtain ⟨plan, hfound, h⟩ := Except.of_demand h
  rw [hfound] at hplan
  obtain ⟨approval, -, h⟩ := Except.of_demand h
  obtain ⟨-, h⟩ := Except.of_require h
  obtain ⟨validated, -, h⟩ := Except.of_bind h
  obtain ⟨-, h⟩ := Except.of_require h
  obtain ⟨node, hnode, h⟩ := Except.of_demand h
  obtain ⟨compiled, hcompiled, h⟩ := Except.of_demand h
  obtain ⟨⟨htask, hdefinition, hcriteria, -⟩, h⟩ := Except.of_require h
  obtain ⟨dependency, -, h⟩ := Except.of_bind h
  obtain ⟨selections, -, h⟩ := Except.of_bind h
  obtain ⟨agent, -, h⟩ := Except.of_demand h
  obtain ⟨-, h⟩ := Except.of_require h
  obtain ⟨deviceId, -, h⟩ := Except.of_demand h
  obtain ⟨-, h⟩ := Except.of_require h
  obtain ⟨-, h⟩ := Except.of_require h
  obtain ⟨grant, hgrant, h⟩ := Except.of_bind h
  obtain ⟨expiry, hexpiry, h⟩ := Except.of_demand h
  obtain ⟨hfuture, h⟩ := Except.of_require h
  obtain ⟨-, h⟩ := Except.of_require h
  obtain ⟨generation, -, h⟩ := Except.of_bind h
  cases h
  obtain ⟨hid, hrevision⟩ := exactGrant_ok hgrant
  have hkey : node.nodeKey = input.governance.nodeKey := by
    unfold Execution.nodeOf at hnode
    simpa using List.find?_some hnode
  refine ⟨?_, hid, hrevision, ⟨expiry, hexpiry, ?_⟩, compiled, List.mem_of_find?_eq_some hcompiled,
    ?_, htask, hdefinition, hcriteria⟩
  · rw [← Execution.getPlan_id hplan] at hplan
    exact hplan
  · dsimp only
    omega
  · rw [hkey]
    simpa using List.find?_some hcompiled

theorem admitRun_ok (h : admitRun P D K host C db input = .ok (some manifest)) :
    Admitted P D db manifest := by
  unfold admitRun at h
  split at h
  · cases h
  obtain ⟨f, hf, h⟩ := Except.of_bind h
  obtain ⟨inputs, -, h⟩ := Except.of_bind h
  obtain ⟨hconforms, h⟩ := Except.of_require h
  obtain ⟨-, h⟩ := Except.of_require h
  cases h
  obtain ⟨hplan, hid, hrevision, ⟨expiry, hexpiry, hdeadline⟩, htask⟩ := freeze_ok hf
  exact
    { sound := ⟨hconforms, rfl, rfl⟩
      grantId := hid.symm
      revision := hrevision.symm
      deadline := ⟨f.deadlineAt, expiry, Int.natCast_nonneg _, hdeadline, hexpiry, rfl⟩
      current := ⟨f.plan, hplan, rfl, rfl, htask⟩ }

end Admission

/-! ## Agreement -/

section Agreement

variable {P : Platform} {D : Dates} {K : Contracts} {B : Bridge} {db : ExecutionDb}
  {ready : AgentGrants} {manifest : Manifest} {record : TaskGrantRecord} {s : Stores}
  {host : BindingHost} {operation : Operation} {now : Time}

theorem exists_exact {C : Connections} {deviceId agentId : String} {nowMs : Int}
    (h : send P D C deviceId agentId manifest nowMs = true) :
    ∃ g ∈ C.governedAgentReadyGrants deviceId agentId,
      exactGrantMatchesManifest P D g manifest nowMs = true := by
  unfold send hasExactCurrentGrant at h
  simp only [Bool.and_eq_true, decide_eq_true_eq] at h
  obtain ⟨-, -, hone⟩ := h
  obtain ⟨g, hg⟩ := List.length_eq_one_iff.mp hone
  have hmem := hg ▸ List.mem_singleton_self g
  exact ⟨g, (List.mem_filter.mp hmem).1, (List.mem_filter.mp hmem).2⟩

/-- What a match with the published summary of a record says of the record. -/
structure Matches (B : Bridge) (record : TaskGrantRecord) (manifest : Manifest) : Prop where
  grant : manifest.grant = (record.summary B).grant
  shared : manifest.repository.bindingId = record.spec.bindingId ∧
    manifest.repository.repositoryId = record.spec.repositoryId ∧
    manifest.repository.runtimeProfileId = record.spec.runtimeProfile.profileId ∧
    manifest.repository.runtimeProfileDigest = record.spec.runtimeProfile.digest ∧
    manifest.scope.deviceId = record.owner.deviceId ∧
    manifest.scope.agentId = record.spec.agentId ∧ manifest.scope.planId = record.spec.planId ∧
    manifest.scope.nodeKey = record.spec.nodeKey
  operations : ∀ operation ∈ expectedOperations manifest.verificationProfiles,
    operation ∈ record.spec.operations
  scope : manifest.scopePolicy = record.spec.scopePolicy
  profiles : manifest.verificationProfiles.map profilePin = record.spec.verificationProfiles

theorem matches_of_exact {nowMs : Int}
    (h : exactGrantMatchesManifest P D (record.summary B) manifest nowMs = true) :
    Matches B record manifest := by
  unfold exactGrantMatchesManifest fitsNode at h
  simp only [Bool.and_eq_true, decide_eq_true_eq, List.all_eq_true] at h
  obtain ⟨⟨⟨⟨hdevice, hagent⟩, hgrant⟩, hfits⟩, -⟩ := h
  obtain ⟨⟨⟨⟨⟨⟨⟨⟨⟨⟨⟨⟨hplan, hnode⟩, hrepository⟩, hbinding⟩, hprofile⟩, -⟩, hdigest⟩, -⟩, -⟩,
    hoperations⟩, -⟩, hscope⟩, hprofiles⟩ := hfits
  exact
    { grant := hgrant.symm
      shared := ⟨hbinding.symm, hrepository.symm, hprofile.symm, hdigest.symm, hdevice.symm,
        hagent.symm, hplan.symm, hnode.symm⟩
      operations := hoperations
      scope := hscope.symm
      profiles := hprofiles.symm }

theorem Matches.sharedPins (h : Matches B record manifest) (hkept : Kept B record)
    (hadmitted : Admitted P D db manifest) :
    sharedPins B.owner record.spec manifest = true := by
  obtain ⟨hbinding, hrepository, hprofile, hdigest, hdevice, hagent, hplan, hnode⟩ := h.shared
  have hid : manifest.repository.grantId = record.spec.grantId := by
    rw [hadmitted.grantId, h.grant]
    rfl
  have hrevision : manifest.repository.grantRevision = 1 := by
    rw [hadmitted.revision, h.grant]
    rfl
  rw [hkept.owner] at hdevice
  unfold Consent.sharedPins
  simp only [hid, hrevision, hbinding, hrepository, hprofile, hdigest, hdevice, hagent, hplan,
    hnode, decide_true, Bool.and_self]

theorem Matches.distinct (h : Matches B record manifest) (hkept : Kept B record) :
    (manifest.verificationProfiles.map (·.profileId)).Nodup := by
  have hids : manifest.verificationProfiles.map (·.profileId) =
      record.spec.verificationProfiles.map (·.profileId) := by
    rw [← h.profiles, List.map_map]
    rfl
  rw [hids]
  exact hkept.distinct

theorem Matches.deadline_le (h : Matches B record manifest) (hkept : Kept B record)
    (hdates : D.Agree P B) (hadmitted : Admitted P D db manifest) :
    ∃ expires deadline, B.parseTime record.spec.expiresAt = some expires ∧
      B.parseTime manifest.deadline = some deadline ∧ deadline ≤ expires := by
  obtain ⟨expires, hexpires⟩ := hkept.expires
  obtain ⟨ms, expiry, hms, hbefore, hparse, hdeadline⟩ := hadmitted.deadline
  have hsame : manifest.grant.expiresAt = record.spec.expiresAt := by
    rw [h.grant]
    rfl
  -- the server's expiry is the millisecond of the Bridge's
  rw [hsame, hdates.parse _ _ hkept.written hexpires] at hparse
  obtain rfl := Option.some.inj hparse
  obtain ⟨deadline, hwritten, hfirst⟩ := hdates.written ms _ expires hms hexpires hbefore
  exact ⟨expires, deadline, hexpires, by rw [hdeadline]; exact hwritten, hfirst _ hbefore⟩

theorem find_later (h : (consent B).Reachable s) {id : String}
    {revoked : Option TaskGrantRevocation} (hrow : Table.get s.grants id = some (record, revoked)) :
    ∃ found, Registry.find (grantReader B) s.grants id = .ok found ∧ found.record = record ∧
      (found.view.summary.revokedAt = none ↔ revoked = none) ∧
      (revoked = none → found.view.summary.grant = (record.summary B).grant) := by
  obtain ⟨view, hview⟩ := (storesInv_reachable h).grants.readable _ _ hrow
  refine ⟨_, Registry.find_of_get hrow hview, rfl, ?_⟩
  obtain ⟨-, -, -, -, -, ⟨rfl, hsummary⟩ | ⟨r, rfl, hsummary⟩⟩ := TaskGrants.of_view hview
  · exact ⟨by rw [hsummary]; exact Iff.rfl.trans (by simp [TaskGrantRecord.summary]),
      fun _ => by rw [hsummary]⟩
  · exact ⟨by rw [hsummary]; simp, nofun⟩

/-- **The check on a manifest that was dispatched.** -/
theorem checkTaskGrant_of_matches (h : (consent B).Reachable s)
    {revoked : Option TaskGrantRevocation}
    (hrow : Table.get s.grants manifest.grant.grantId = some (record, revoked))
    (hmatches : Matches B record manifest) (hkept : Kept B record) (hdates : D.Agree P B)
    (hadmitted : Admitted P D db manifest)
    (hoperation : operation ∈ expectedOperations manifest.verificationProfiles) :
    checkTaskGrant P B host s manifest operation now = .ok () ↔
      InForce B host s record manifest now ∧ hiddenPins record.spec manifest = true := by
  obtain ⟨found, hfound, rfl, hcurrent, hgrant⟩ := find_later h hrow
  obtain ⟨expires, deadline, hexpires, hdeadline, hle⟩ :=
    hmatches.deadline_le hkept hdates hadmitted
  -- what admission fixed passes; the rest is the grant being in force
  rw [checkTaskGrant_iff]
  constructor
  · rintro ⟨-, found', hfound', hrevoked, htime, -, ⟨-, -, -, hhidden⟩, -, -, hbinding⟩
    rw [hfound] at hfound'
    cases hfound'
    unfold inTime at htime
    rw [hexpires, hdeadline] at htime
    simp only [Bool.and_eq_true, decide_eq_true_eq] at htime
    obtain rfl := hcurrent.mp hrevoked
    refine ⟨⟨hrow, htime.1.1.1, ?_, ?_, hbinding⟩, hhidden⟩
    · rw [hexpires]
      exact decide_eq_true htime.1.1.2
    · rw [hdeadline]
      exact decide_eq_true htime.1.2
  · rintro ⟨hforce, hhidden⟩
    obtain rfl : revoked = none := by
      have hsame := hrow.symm.trans hforce.unrevoked
      cases hsame
      rfl
    have hbefore := hforce.expires
    have hopen := hforce.deadline
    rw [hexpires, Option.any_some, decide_eq_true_eq] at hbefore
    rw [hdeadline, Option.any_some, decide_eq_true_eq] at hopen
    refine ⟨hadmitted.sound, found, hfound, hcurrent.mpr rfl, ?_, ?_, ⟨?_, ?_, ?_, hhidden⟩, ?_,
      ⟨?_, ?_⟩, hforce.binding⟩
    · unfold inTime
      rw [hexpires, hdeadline]
      simp [hforce.issued, hbefore, hopen, hle]
    · unfold expectedOperations at hoperation
      split at hoperation <;> simp at hoperation <;> tauto
    · exact hmatches.operations operation hoperation
    · rw [hmatches.grant]
      exact (hgrant rfl).symm
    · exact hmatches.sharedPins hkept hadmitted
    · obtain ⟨policy, hpolicy⟩ := hkept.frozen
      rw [hmatches.scope]
      exact scopeWithinGrant_self hpolicy
    · exact hmatches.distinct hkept
    · intro profile hprofile
      rw [← hmatches.profiles]
      exact List.mem_map_of_mem hprofile

end Agreement

end AgentRoom.Consent
