import AgentRoom.Consent.ConsentLaw
import AgentRoom.Consent.GrantAgreement
import AgentRoom.Execution.LowRisk

/-!
# Dispatch under local consent

What a Bridge answers to a manifest that the server sent under one of its published grants, at any
time after. A plan that moved to another revision under an unchanged grant is still dispatched, and
refused.
-/

namespace AgentRoom.Consent

open Execution (Contracts ExecutionDb Manifest)
open Workspace (Platform)

/-! ## The law -/

/-- **Server and Bridge on a manifest** that was dispatched under the grant of a record. -/
structure GrantLaw (P : Platform) (D : Dates) (B : Bridge) (db : ExecutionDb) (s : Stores)
    (manifest : Manifest) (record : TaskGrantRecord) : Prop where
  published : Table.get s.grants manifest.grant.grantId = some (record, none)
  /-- The manifest is one of the plan as it is now. -/
  admitted : Admitted P D db manifest
  /-- What the summary shows agrees. -/
  shared : sharedPins B.owner record.spec manifest = true
  /-- The Bridge accepts it exactly while the consent is in force, if what the summary does not
  show agrees too. -/
  accepted : ∀ s', (consent B).Steps s s' →
    ∀ operation ∈ expectedOperations manifest.verificationProfiles, ∀ host now,
      checkTaskGrant P B host s' manifest operation now = .ok () ↔
        InForce B host s' record manifest now ∧ hiddenPins record.spec manifest = true
  /-- It refuses it, in force or not, if something of that differs. -/
  refused : hiddenPins record.spec manifest = false → ∀ s', (consent B).Steps s s' →
    ∀ operation host now, ∃ e, checkTaskGrant P B host s' manifest operation now = .error e

/-- A manifest with another hidden pin is refused for every operation. -/
theorem checkTaskGrant_refused {P : Platform} {B : Bridge} {s : Stores} {manifest : Manifest}
    {record : TaskGrantRecord} {revoked : Option TaskGrantRevocation}
    (hrow : Table.get s.grants manifest.grant.grantId = some (record, revoked))
    (hhidden : hiddenPins record.spec manifest = false) (operation : Operation)
    (host : BindingHost) (now : Time) :
    ∃ e, checkTaskGrant P B host s manifest operation now = .error e := by
  cases hcheck : checkTaskGrant P B host s manifest operation now with
  | error e => exact ⟨e, rfl⟩
  | ok _ =>
    obtain ⟨-, found, hfound, -, -, -, ⟨-, -, -, hpinned⟩, -⟩ := checkTaskGrant_iff.mp hcheck
    obtain ⟨v, hget, -⟩ := Registry.find_ok hfound
    rw [hrow] at hget
    cases hget
    rw [hhidden] at hpinned
    cases hpinned

/-- **What the two sides agree on, and what decides the rest.** -/
theorem grant_law {P : Platform} {D : Dates} {K : Contracts} {B : Bridge} {db : ExecutionDb}
    {s : Stores} {host : ConsentHost} {roster : Roster} {now : Time} {ready : AgentGrants}
    {manifest : Manifest} (hdates : D.Agree P B) (hreach : (consent B).Reachable s)
    (hready : readyAgentGrants B host s roster now = .ok ready)
    (hdispatched : Dispatched P D K B db ready manifest) :
    ∃ record, GrantLaw P D B db s manifest record := by
  obtain ⟨_, _, _, hadmit⟩ := hdispatched.admitted
  have hadmitted := admitRun_ok hadmit
  obtain ⟨C, nowMs, hsend, hpublished⟩ := hdispatched.sent
  obtain ⟨summary, hsummary, hexact⟩ := exists_exact hsend
  obtain ⟨record, hrow, rfl, hkept⟩ := published_record hready (hpublished _ hsummary)
  have hmatches := matches_of_exact hexact
  have hid : (record.summary B).grant.grantId = manifest.grant.grantId := by rw [hmatches.grant]
  rw [hid] at hrow
  refine ⟨record, hrow, hadmitted, hmatches.sharedPins hkept hadmitted, ?_, ?_⟩
  · intro s' hsteps operation hoperation host' now'
    obtain ⟨revoked, hlater⟩ := record_kept hsteps hrow
    exact checkTaskGrant_of_matches (System.reachable_steps hreach hsteps) hlater hmatches hkept
      hdates hadmitted hoperation
  · intro hhidden s' hsteps operation host' now'
    obtain ⟨revoked, hlater⟩ := record_kept hsteps hrow
    exact checkTaskGrant_refused hlater hhidden operation host' now'

/-! ## A plan that moved on -/

namespace DispatchSample

open Execution (sampleRoom sampleWork sampleDefinition sampleSnapshot)
open Plan (PlanNode PlanDefinition)

def node : PlanNode :=
  { Plan.sampleBuild with
    task := .existing ⟨"task_write0001", 1, 1, 1⟩
    repository := ⟨"repo_sample01", "repobind_sample01", ConsentSample.commit, "grant_sample01", 1,
      "profile_sample01", ConsentSample.digest⟩
    scope := ⟨.isolatedWrite, ["src"], [], false⟩
    verificationProfiles := [⟨"profile_tests001", 1, ConsentSample.digest, true⟩] }

def definition : PlanDefinition := { sampleDefinition 1 with nodes := [node] }

/-- The Room, with everything a Run needs. -/
def room : ExecutionDb :=
  { sampleRoom with
    teams := [⟨"team_sample01", false⟩]
    rooms := [⟨"room_sample01", "team_sample01", false⟩]
    devices := [⟨"device_sample01", "team_sample01", "member_sample01", .active⟩] }

def revision (proposalId decisionId : String) : Execution.RevisionInput where
  planId := "plan_sample01"
  decisionId
  proposalId
  rootTaskId := "task_root0001"
  roomId := "room_sample01"
  ownerMemberId := "member_sample01"
  definition
  definitionDigest := ConsentSample.digest
  author := .member "member_sample01"
  snapshots := [sampleSnapshot]
  now := 0

/-- The plan as it is read. -/
def planAt (row : Execution.PlanRevision) (state : Execution.PlanState) (controlRevision : Nat)
    (compiledTasks : List Execution.CompiledTask) : Execution.PlanProjection where
  planId := "plan_sample01"
  rootTaskId := "task_root0001"
  roomId := "room_sample01"
  ownerMemberId := "member_sample01"
  current := row
  controlRevision
  state
  compiledTasks
  createdAt := 0
  updatedAt := 0

def drafted : ExecutionDb :=
  (Tx.immediate (Execution.append none (revision "proposal_sample01" "decision_sample01")
    "op_create0001") room).2

/-- The draft is at its second revision. -/
def revised : ExecutionDb :=
  (Tx.immediate (Execution.append
    (some (planAt ((revision "proposal_sample01" "decision_sample01").row 1) .draft 1 []))
    (revision "proposal_sample02" "decision_sample02") "op_revise0001") drafted).2

def review : Execution.ReviewInput where
  operationId := "op_approve001"
  decision := .approved
  reason := "go"
  memberId := "member_sample01"
  expectedRootTaskRevision := 1
  rootTaskRevisionAfter := 2
  requestDigest := ConsentSample.digest
  compiled := [⟨node, sampleWork⟩]
  now := 0

/-- The second revision is approved. -/
def tables : ExecutionDb :=
  (Tx.immediate (Execution.persist
    (planAt ((revision "proposal_sample02" "decision_sample02").row 2) .draft 1 []) review)
    revised).2

def plan : Execution.PlanProjection :=
  planAt ((revision "proposal_sample02" "decision_sample02").row 2) .approved 2
    [⟨"write", "task_write0001", 1, 1, 1⟩]

theorem reads_plan : Execution.getPlan tables "plan_sample01" = .ok (some plan) := by rfl

def contracts : Contracts :=
  Contracts.of AgentRoom.Contracts.integerDoubles (fun _ => ConsentSample.digest)
    Execution.sampleDigest fun _ => true

def platform : Workspace.Platform where
  digest _ := ConsentSample.digest
  conforms _ := true
  parse text := some text.length

def dates : Dates where
  toISOString ms := String.ofList (List.replicate ms.toNat 'z')
  millisecond t := (t / 20 : Nat)

theorem dates_agree : dates.Agree platform ConsentSample.bridge where
  parse text t _ h := by
    obtain rfl := Option.some.inj h
    change some (text.length : Int) = some (((20 * text.length) / 20 : Nat) : Int)
    rw [Nat.mul_div_cancel_left _ (by decide)]
  written ms text u hms _ _ := by
    refine ⟨20 * ms.toNat, ?_, fun v hv => ?_⟩
    · change some (20 * (String.ofList (List.replicate ms.toNat 'z')).length) = _
      rw [String.length_ofList, List.length_replicate]
    · change ms ≤ ((v / 20 : Nat) : Int) at hv
      change 20 * ms.toNat ≤ (v : Nat)
      omega

/-- Consent to a node at a revision of its plan. -/
def terms (planRevision : Nat) : ConsentSample.Terms where
  planRevision
  operations := [.capture, .prepare, .verify]
  pins := [⟨"profile_tests001", 1, ConsentSample.digest⟩]
  targets := []

/-- What is published of it: the revision is not seen. -/
def summary : ExecutionGrantSummary := ConsentSample.summary (terms 1)

def capability : GovernedCapability := ⟨"workspace", [.prepare, .capture], false, some [summary]⟩

def connections : Connections := fun _ => some ⟨some capability, fun _ => some capability⟩

def host : AdmissionHost where
  capabilityText _ := "capability"
  nextDispatchGeneration := 1
  runId := "run_sample0001"
  captureDigest _ := ConsentSample.digest
  admitted := false
  seals _ := true

def input : AdmissionInput where
  memberId := "member_sample01"
  role := .owner
  messageId := "msg_sample01"
  content := "go"
  mentions := ["agent_sample01"]
  roomId := "room_sample01"
  now := 1
  task := sampleWork
  governance := ⟨"plan_sample01", 2, "write"⟩
  source := .memberMessage
  retry := none

def frozen : Frozen where
  plan
  approvalOperationId := "op_approve001"
  node
  deviceId := "device_sample01"
  grant := summary
  generation := 1
  deadlineAt := 5
  selections := []

def validated : Plan.Validated :=
  Plan.validated AgentRoom.Contracts.integerDoubles (fun _ => ConsentSample.digest) definition

theorem accepted_definition :
    contracts.validateExecutionPlanDefinition definition = .ok validated := by
  have hasserted : Plan.assertPlanDefinition AgentRoom.Contracts.integerDoubles definition =
      .ok () := by decide +kernel
  refine Plan.validate_of_checks ?_ (by decide +kernel)
  unfold Plan.checkPlan
  rw [hasserted]
  decide

theorem node_of : Execution.nodeOf validated.definition "write" = some node := by rfl

theorem length_later : "later".length = 5 := by decide

theorem accepts : contracts.validateExecutionPlanDefinition plan.current.definition =
    .ok validated := accepted_definition

theorem resolves : Execution.resolve contracts tables ⟨"plan_sample01", 2, "write"⟩ =
    .ok (.ready []) := by
  unfold Execution.resolve
  rw [Except.bind_of_ok (a := some plan) (by exact reads_plan)]
  dsimp only
  rw [if_pos (by exact ⟨rfl, rfl⟩), Except.bind_of_ok (a := validated) (by exact accepts),
    if_pos (by rfl), show Execution.nodeOf validated.definition "write" = some node from node_of]
  rfl

theorem parses_later : platform.parse summary.grant.expiresAt = some 5 := by
  change some (("later".length : Nat) : Int) = some 5
  rw [length_later]
  rfl

theorem fits : fitsNode summary "plan_sample01" "write" node.repository node.scope
    node.verificationProfiles = true := by rfl

theorem exact_grant :
    exactGrant platform dates connections "plan_sample01" node "device_sample01" 1 =
    .ok summary := by
  have hmatching : matchingGrants platform dates connections "plan_sample01" node
      "device_sample01" 1 = [summary] := by
    unfold matchingGrants
    refine List.filter_eq_self.mpr fun grant hgrant => ?_
    obtain rfl := List.mem_singleton.mp hgrant
    rw [show node.nodeKey = "write" from rfl, fits, parses_later]
    rfl
  unfold exactGrant
  rw [hmatching]

def approval : Execution.ApprovalRow :=
  review.row (planAt ((revision "proposal_sample02" "decision_sample02").row 2) .draft 1 [])

theorem freezes : freeze platform dates contracts host connections tables input = .ok frozen := by
  have hdeadline : min ((input.now : Int) + defaultRunDurationMilliseconds) 5 = 5 := by decide
  unfold freeze
  rw [Except.require_bind (by exact fun _ => .inl rfl),
    Except.require_bind (by exact fun _ => rfl),
    Except.bind_of_ok (a := some plan) (by exact reads_plan),
    Except.bind_of_ok (a := plan) (by rfl),
    Except.bind_of_ok (a := approval) (by rfl),
    Except.require_bind (by exact ⟨rfl, rfl, rfl, by decide, rfl⟩),
    Except.bind_of_ok (a := validated) (by exact accepts),
    Except.require_bind (by rfl), Except.bind_of_ok (a := node) (by rfl),
    Except.bind_of_ok (a := ⟨"write", "task_write0001", 1, 1, 1⟩) (by rfl),
    Except.require_bind (by
      exact ⟨rfl, rfl, rfl, fun _ => rfl, ⟨_, List.mem_singleton_self _, rfl⟩, rfl⟩),
    Except.bind_of_ok (a := .ready []) (by exact resolves),
    Except.bind_of_ok (a := []) (by rfl),
    Except.bind_of_ok (a := ⟨"agent_sample01", "team_sample01", "member_sample01",
      some "device_sample01", .managed, some "capability", true⟩) (by rfl),
    Except.require_bind (by exact ⟨rfl, rfl⟩), Except.bind_of_ok (a := "device_sample01") (by rfl),
    Except.require_bind (by exact ⟨rfl, rfl⟩), Except.require_bind (by exact ⟨rfl, rfl⟩),
    Except.bind_of_ok (a := summary) (by exact exact_grant),
    Except.bind_of_ok (a := 5) (by exact Except.demand_eq_ok.mpr parses_later)]
  dsimp only
  rw [hdeadline, Except.require_bind (by decide), Except.require_bind (by decide),
    Except.bind_of_ok (a := 1) (by rfl)]
  rfl

def manifest : Manifest := frozen.manifest platform dates host input []

def withRun : ExecutionDb :=
  { tables with runs := [governedRun host input "agent_sample01" 5] }

/-- What the inputs of the Run are frozen by. -/
def request : Execution.FreezeInputs where
  planId := "plan_sample01"
  revision := 2
  expectedDigest := ConsentSample.digest
  expectedControlRevision := 2
  nodeKey := "write"
  runId := "run_sample0001"
  deviceId := "device_sample01"
  selections := []
  expiresAt := 5

theorem arrives : Execution.destination withRun plan "write" "run_sample0001" "device_sample01" =
    some ⟨"task_write0001", "agent_sample01", 5, none⟩ := by rfl

/-- There is nothing to prepare: the node has no inputs. -/
theorem prepares : Execution.prepareInputs contracts withRun request 1 = .ok [] := by
  unfold Execution.prepareInputs
  rw [Except.bind_of_ok (a := ()) (by exact if_pos ⟨by decide, List.nodup_nil⟩),
    Except.bind_of_ok (a := some plan) (by exact reads_plan)]
  dsimp only
  rw [Except.bind_of_ok (a := ()) (by exact if_pos ⟨rfl, rfl, rfl, rfl⟩),
    show Execution.getApproval withRun plan.planId request.revision = some approval from rfl]
  dsimp only
  rw [Except.bind_of_ok (a := ()) (by exact if_pos ⟨rfl, rfl⟩),
    show Execution.destination withRun plan request.nodeKey request.runId request.deviceId = _
      from arrives]
  dsimp only
  rw [Except.bind_of_ok (a := ()) (by exact if_pos ⟨by decide, Nat.le_refl 5⟩),
    Except.bind_of_ok (a := validated) (by exact accepts),
    show Execution.nodeOf validated.definition request.nodeKey = some node from node_of]
  dsimp only
  have hslots : (∀ s ∈ request.selections, ∃ slot ∈ node.inputs, slot.slotKey = s.inputSlot) ∧
      ∀ slot ∈ node.inputs, slot.required → ∃ s ∈ request.selections,
        s.inputSlot = slot.slotKey := by
    rw [show node.inputs = [] from rfl, show request.selections = [] from rfl]
    simp
  have hcheck : Execution.require
      ((∀ s ∈ request.selections, ∃ slot ∈ node.inputs, slot.slotKey = s.inputSlot) ∧
      ∀ slot ∈ node.inputs, slot.required → ∃ s ∈ request.selections,
        s.inputSlot = slot.slotKey) "EXECUTION_INPUT_SELECTION_INVALID" = .ok () := by
    unfold Execution.require
    rw [if_pos hslots]
  rw [Except.bind_of_ok hcheck, show request.selections = [] from rfl, List.mapM_nil]
  rfl

theorem freezes_inputs :
    (Execution.freezeForRun contracts request 1 withRun).1 = .ok [] := by
  have hcheck := Execution.bind_check_ok
    (x := fun db => Execution.prepareInputs contracts db request 1)
    (f := fun prepared => Tx.forEach (fun p : Execution.PreparedInput =>
      Execution.insertInput contracts p.record) prepared) prepares
  exact congrArg Prod.fst (Tx.immediate_ok hcheck)

theorem admits : admitRun platform dates contracts host connections tables input =
    .ok (some manifest) := by
  unfold admitRun
  rw [if_neg (by decide), Except.bind_of_ok (a := frozen) (by exact freezes)]
  dsimp only
  rw [Except.bind_of_ok (a := []) (by exact freezes_inputs), Except.require_bind (by rfl),
    Except.require_bind (by rfl)]
  rfl

theorem length_deadline : (String.ofList (List.replicate 5 'z')).length = 5 := by
  rw [String.length_ofList, List.length_replicate]

theorem sends : send platform dates connections "device_sample01" "agent_sample01" manifest 1 =
    true := by
  have hdeadline : platform.parse manifest.deadline = some 5 := by
    change some ((String.ofList (List.replicate 5 'z')).length : Int) = some 5
    rw [length_deadline]
    rfl
  have hmatches : exactGrantMatchesManifest platform dates summary manifest 1 = true := by
    unfold exactGrantMatchesManifest
    rw [show fitsNode summary manifest.scope.planId manifest.scope.nodeKey manifest.repository
      manifest.scopePolicy manifest.verificationProfiles = true from fits, parses_later, hdeadline]
    rfl
  have hone : (connections.governedAgentReadyGrants "device_sample01" "agent_sample01").filter
      (fun grant => exactGrantMatchesManifest platform dates grant manifest 1) = [summary] := by
    refine List.filter_eq_self.mpr fun grant hgrant => ?_
    obtain rfl := List.mem_singleton.mp hgrant
    exact hmatches
  unfold send hasExactCurrentGrant
  rw [hone]
  rfl

/-- The consent is in order, whichever revision it is for. -/
theorem terms_inOrder {planRevision : Nat} (hrevision : Plan.revisionWithin planRevision = true) :
    ConsentSample.InOrder (terms planRevision) where
  schema := by
    have hids := ConsentSample.ids
    have htests : Plan.markedId "profile_" 128 "profile_tests001" = true :=
      (markedId_ofList _ _ _).trans (by decide)
    have hpolicy : (Plan.ScopePolicy.mk .isolatedWrite ["src"] [] false).schema = true := by
      decide
    simp [terms, ExecutionGrantSummary.schema, ConsentSample.summary, TaskGrantRecord.summary,
      ConsentSample.grant, ConsentSample.bridge, grantPattern, repositoryPattern, bindingPattern,
      hids, htests, ConsentSample.digest_text, ConsentSample.computed.stable_key, hpolicy,
      Plan.itemsWithin, ProfilePin.schema, Plan.revisionWithin, Plan.natWithin]
  revision := hrevision
  sortedOperations := by
    have hsorted : [Operation.capture, .prepare, .verify].insertionSort
        (fun a b => a.text ≤ b.text) = [.capture, .prepare, .verify] := by decide
    exact hsorted
  sortedPins := rfl
  distinctPins := List.nodup_singleton _
  verify := .inr (List.mem_of_getLast? rfl)
  verified := by
    change ((Verifiers.resolve _ _ _ _).isOk && true) = true
    rw [ConsentSample.resolves_verifier]
    rfl
  sortedTargets := rfl
  fit := ⟨rfl, List.nodup_nil⟩

theorem reachable : Execution.Reachable contracts tables := by
  have hroom : Execution.Step contracts {} room :=
    .elsewhere ⟨rfl, rfl, rfl, rfl, rfl, rfl, rfl, rfl, rfl, rfl, rfl, by
      refine ⟨?_, ?_, ?_, ?_⟩ <;> simp [Execution.ownAdoptions, room, sampleRoom]⟩
  exact .tail (.tail (.tail (.single hroom) (.append _ _ _ _)) (.append _ _ _ _)) (.review _ _ _)

theorem dispatched (planRevision : Nat) :
    Dispatched platform dates contracts ConsentSample.bridge tables
      (ConsentSample.selection (terms planRevision)) manifest where
  admitted := ⟨host, connections, input, admits⟩
  sent := ⟨connections, 1, sends, fun _ h => h⟩

theorem ready {planRevision : Nat} (hrevision : Plan.revisionWithin planRevision = true) :
    readyAgentGrants ConsentSample.bridge ConsentSample.host
      (ConsentSample.issued (terms planRevision)) ConsentSample.roster 5 =
        .ok (ConsentSample.selection (terms planRevision)) :=
  ConsentSample.selects (terms_inOrder hrevision) rfl

end DispatchSample

/-- Consent to the plan's revision, and the manifest of that revision. -/
theorem same_revision_law :
    ∃ record, GrantLaw DispatchSample.platform DispatchSample.dates ConsentSample.bridge
        DispatchSample.tables (ConsentSample.issued (DispatchSample.terms 2))
        DispatchSample.manifest record ∧
      hiddenPins record.spec DispatchSample.manifest = true := by
  obtain ⟨record, hlaw⟩ := grant_law DispatchSample.dates_agree
    (ConsentSample.reaches (DispatchSample.terms_inOrder rfl)) (DispatchSample.ready rfl)
    (DispatchSample.dispatched 2)
  refine ⟨record, hlaw, ?_⟩
  have hrow := hlaw.published
  cases (Table.get_put_self _ _ _).symm.trans hrow
  rfl

/-- **A plan that moved on**: consent to its first revision is published and in force, and the
manifest of its second is dispatched under it, and refused. -/
theorem moved_plan_refused :
    ∃ s record ready, (consent ConsentSample.bridge).Reachable s ∧
      readyAgentGrants ConsentSample.bridge ConsentSample.host s ConsentSample.roster 5 =
        .ok ready ∧
      Execution.Reachable DispatchSample.contracts DispatchSample.tables ∧
      Dispatched DispatchSample.platform DispatchSample.dates DispatchSample.contracts
        ConsentSample.bridge DispatchSample.tables ready DispatchSample.manifest ∧
      InForce ConsentSample.bridge ConsentSample.host.binding s record DispatchSample.manifest 5 ∧
      ∀ operation, ∃ e, checkTaskGrant DispatchSample.platform ConsentSample.bridge
        ConsentSample.host.binding s DispatchSample.manifest operation 5 = .error e := by
  have hrow : Table.get (ConsentSample.issued (DispatchSample.terms 1)).grants
      DispatchSample.manifest.grant.grantId =
        some (⟨ConsentSample.bridge.owner, ConsentSample.grant (DispatchSample.terms 1), 0⟩,
          none) :=
    Table.get_put_self _ _ _
  refine ⟨_, _, _, ConsentSample.reaches (DispatchSample.terms_inOrder rfl),
    DispatchSample.ready rfl, DispatchSample.reachable, DispatchSample.dispatched 1,
    ⟨hrow, Nat.zero_le 5, ?_, ?_, ConsentSample.checks_binding⟩,
    fun operation => checkTaskGrant_refused hrow rfl operation _ 5⟩
  · change (ConsentSample.bridge.parseTime "later").any _ = true
    rw [ConsentSample.parses_later]
    rfl
  · change (some (20 * (String.ofList (List.replicate 5 'z')).length)).any _ = true
    rw [DispatchSample.length_deadline]
    rfl

end AgentRoom.Consent
