import AgentRoom.Consent.ReadyLaw

/-!
# Consent keeps the Bridge connected

What an owner can issue, and when the result of it can be published. A grant that consents to
prepare, to capture and to integrate is issued and selected, and the connection refuses it: in a
run that issues no such grant, and no more than 64 grants of an Agent, every state is published.
-/

namespace AgentRoom.Consent

open Plan (IntegrationTarget digestText gitObjectId isHex isWordChar markedId stableKey)

/-! ## Modest commands -/

def grantsOfAgent (s : Stores) (agentId : String) : Nat :=
  Registry.count (fun record => record.spec.agentId = agentId) s.grants

/-- A Runtime grant is issued without an integration target, and to an Agent that has fewer than
64 grants. -/
def Modest (call : OwnerCommand × Time) (s : Stores) : Prop :=
  match call.1 with
  | .issueTaskGrant _ _ spec => (spec.runtimeReady = true → spec.integrationTargets = []) ∧
      grantsOfAgent s spec.agentId < 64
  | _ => True

/-- What modest commands leave in the store. -/
structure ModestInv (s : Stores) : Prop where
  unmixed : ∀ row ∈ s.grants.rows, row.1.spec.runtimeReady = true →
    row.1.spec.integrationTargets = []
  few : ∀ agentId, grantsOfAgent s agentId ≤ 64

section Modest

variable {B : Bridge} {s s' : Stores} {view : TaskGrantView} {grants : TaskGrants} {now : Time}

/-- Putting a grant in order changes neither its Agent nor what it consents to. -/
theorem normalizeTaskGrant_same {spec normalized : TaskGrantSpec} {owner : Owner} {issuedAt : Time}
    (h : normalizeTaskGrant B spec owner issuedAt = .ok normalized) :
    normalized.agentId = spec.agentId ∧ normalized.runtimeReady = spec.runtimeReady ∧
      (spec.integrationTargets = [] → normalized.integrationTargets = []) := by
  iterate 4 obtain ⟨-, h⟩ := Except.of_require h
  obtain ⟨policy, -, h⟩ := Except.of_expect h
  obtain ⟨-, h⟩ := Except.of_require h
  obtain ⟨-, h⟩ := Except.of_require h
  cases h
  refine ⟨rfl, ?_, fun hnone => ?_⟩
  · unfold TaskGrantSpec.runtimeReady
    simp only [List.mem_insertionSort]
  · simp only [hnone, List.insertionSort_nil]

theorem ModestInv.issue {t : TaskGrants} {host : BindingHost} {bindings : Bindings}
    {spec : TaskGrantSpec} (hinv : ModestInv s)
    (hunmixed : spec.runtimeReady = true → spec.integrationTargets = [])
    (hroom : grantsOfAgent s spec.agentId < 64)
    (h : TaskGrants.issueTaskGrant B host bindings s.grants spec now = .ok (view, t)) :
    ModestInv { s with grants := t } := by
  obtain ⟨normalized, hnormal, rfl | ⟨-, hfree, hwrite⟩⟩ := TaskGrants.issueTaskGrant_ok h
  · exact hinv
  obtain ⟨hagent, hready, hempty⟩ := normalizeTaskGrant_same hnormal
  refine ⟨fun row hrow => ?_, fun agentId => ?_⟩
  · obtain ⟨-, rfl⟩ := Registry.write_ok hwrite
    obtain ⟨k, hget⟩ := Table.mem_rows.mp hrow
    rw [Table.get_put] at hget
    split at hget
    · cases hget
      rw [hready]
      exact fun hruntime => hempty (hunmixed hruntime)
    · exact hinv.unmixed row (Table.mem_rows.mpr ⟨k, hget⟩)
  · have hcount := Registry.count_write_new (p := fun record => record.spec.agentId = agentId)
      hfree hwrite
    have hfew := hinv.few agentId
    unfold grantsOfAgent at hfew hroom ⊢
    rw [hcount]
    by_cases hsame : spec.agentId = agentId
    · subst hsame
      split <;> omega
    · rw [if_neg (by simp [hagent, hsame])]
      exact hfew

theorem ModestInv.revoke {t : TaskGrants} {grantId expectedDigest : String}
    {expectedRevision : Nat} (hinv : ModestInv s)
    (h : TaskGrants.revokeTaskGrant B s.grants grantId expectedRevision expectedDigest now =
      .ok (view, t)) : ModestInv { s with grants := t } := by
  obtain rfl | ⟨row, revoked, hget, hwrite⟩ := TaskGrants.revokeTaskGrant_ok h
  · exact hinv
  refine ⟨fun row' hrow' => ?_, fun agentId => ?_⟩
  · obtain ⟨-, rfl⟩ := Registry.write_ok hwrite
    obtain ⟨k, hget'⟩ := Table.mem_rows.mp hrow'
    rw [Table.get_put] at hget'
    split at hget'
    · cases hget'
      exact hinv.unmixed row (Table.mem_rows.mpr ⟨grantId, hget⟩)
    · exact hinv.unmixed row' (Table.mem_rows.mpr ⟨k, hget'⟩)
  · unfold grantsOfAgent
    rw [Registry.count_write_again hget hwrite]
    exact hinv.few agentId

theorem ModestInv.run {command : OwnerCommand} (hinv : ModestInv s)
    (hmodest : Modest (command, now) s) (h : command.run B s now = .ok s') : ModestInv s' := by
  -- only a command on grants changes them
  have hsame : ∀ {s' : Stores}, s'.grants = s.grants → ModestInv s' := by
    intro s' hgrants
    obtain ⟨hunmixed, hfew⟩ := hinv
    refine ⟨?_, ?_⟩
    · rwa [hgrants]
    · unfold grantsOfAgent
      rwa [hgrants]
  cases command with
  | issueTaskGrant host roster spec =>
    obtain ⟨⟨view, grants⟩, hcall, h⟩ := Except.of_bind h
    cases h
    obtain ⟨agent, -, hcall⟩ := Except.of_demand hcall
    obtain ⟨-, hcall⟩ := Except.of_require hcall
    exact hinv.issue hmodest.1 hmodest.2 hcall
  | revokeTaskGrant grantId expectedRevision expectedDigest =>
    obtain ⟨⟨view, grants⟩, hcall, h⟩ := Except.of_bind h
    cases h
    exact hinv.revoke hcall
  | _ =>
    obtain ⟨⟨view, changed⟩, -, h⟩ := Except.of_bind h
    cases h
    exact hsame rfl

theorem modestInv_reachable (h : ((consent B).restrict Modest).Reachable s) : ModestInv s := by
  refine System.invariant ModestInv (fun s hs => ?_) (fun call s s' hs hinv => ?_) h
  · obtain rfl : s = Stores.empty := hs
    exact ⟨nofun, fun agentId => Nat.zero_le 64⟩
  · exact hinv.run hs.1 hs.2

/-- **Modest consent can be published.** -/
theorem ModestInv.publishable {host : ConsentHost} {roster : Roster} {views : List TaskGrantView}
    (hinv : ModestInv s) (h : TaskGrants.list B s.grants = .ok views) :
    Publishable B host s roster now views := by
  have hlist := TaskGrants.list_ok h
  refine ⟨fun g hg _ hruntime => ?_, fun agentId => ?_⟩
  · obtain ⟨id, -, hget⟩ := Except.exists_of_mem_mapM hlist hg
    obtain ⟨row, hrow, hview⟩ := Registry.get_eq_ok.mp hget
    obtain ⟨-, -, hspec, -⟩ := TaskGrants.of_view hview
    rw [hspec] at hruntime ⊢
    exact hinv.unmixed row (Table.mem_rows.mpr ⟨id, hrow⟩) hruntime
  · have hcount := Registry.countP_list (p := fun record => record.spec.agentId = agentId)
      (q := fun g => g.spec.agentId = agentId) hlist fun k r v w hview => by
        obtain ⟨-, -, hspec, -⟩ := TaskGrants.of_view hview
        rw [hspec]
    calc (views.countP fun g => usable B host s roster now g && g.spec.agentId = agentId)
        ≤ views.countP fun g => g.spec.agentId = agentId :=
          List.countP_mono_left fun g _ hg => (Bool.and_eq_true _ _ ▸ hg).2
      _ = grantsOfAgent s agentId := hcount
      _ ≤ 64 := hinv.few agentId

end Modest

/-! ## The law -/

/-- **What local consent leaves a Bridge to publish**, for any host, any configured Agents, at any
time. -/
structure ConsentLaw (B : Bridge) (host : ConsentHost) (roster : Roster) (now : Time) : Prop where
  /-- The selection of a reached state is published exactly when it is publishable. -/
  exactly : ∀ s, (consent B).Reachable s →
    (Publishes B host s roster now ↔ (coordinates host roster = true →
      ∀ views, TaskGrants.list B s.grants = .ok views → Publishable B host s roster now views))
  /-- Every state of a run of modest commands is published. -/
  modestly : ∀ s, ((consent B).restrict Modest).Reachable s → Publishes B host s roster now

theorem consent_law (B : Bridge) (host : ConsentHost) (roster : Roster) (now : Time) :
    ConsentLaw B host roster now where
  exactly _ h := publishes_iff h host roster now
  modestly _ h := (publishes_iff (System.reachable_of_restrict h) host roster now).mpr
    fun _ _ hviews => (modestInv_reachable h).publishable hviews

/-! ## A grant that is both -/

theorem digestText_ofList (cs : List Char) :
    digestText (String.ofList cs) = (cs.length = 64 && cs.all isHex) := by
  unfold digestText
  rw [String.length_ofList, String.toList_ofList]

theorem gitObjectId_ofList (cs : List Char) : gitObjectId (String.ofList cs) =
    ((cs.length = 40 || cs.length = 64) && cs.all isHex) := by
  unfold gitObjectId
  rw [String.length_ofList, String.toList_ofList]

theorem markedId_ofList (mark text : List Char) (n : Nat) :
    markedId (String.ofList mark) n (String.ofList text) = (mark.isPrefixOf text &&
      (decide (8 ≤ (text.drop mark.length).length) &&
        decide ((text.drop mark.length).length ≤ n) &&
        (text.drop mark.length).all isWordChar)) := by
  unfold markedId
  rw [String.length_ofList, String.toList_ofList, String.toList_ofList]

namespace ConsentSample

def digest : String := String.ofList (List.replicate 64 'a')

def commit : String := String.ofList (List.replicate 40 'b')

def source : Source :=
  ⟨"/work/repo", "/work/repo/.git", "/work/repo/.git", .sha1, "1", "2", "3"⟩

/-- A Bridge whose paths are plain texts. -/
def bridge : Bridge where
  owner := ⟨"https://central", "team_sample01", "device_sample01", "member_sample01"⟩
  dataRoot := "/data"
  unicode :=
    { nfc := id, lowerRune := Char.toLower, upperRune := Char.toUpper
      isControl := fun c => c.toNat < 32, isFormat := fun _ => false, isSpace := (· = ' ') }
  bytes _ := 1000
  canonical _ := true
  digest _ := digest
  configurationDigest _ _ _ := digest
  parseTime text := some (20 * text.length)
  utcTimestamp _ := true
  cleanPath path := ['/'].isPrefixOf path.toList
  rootPath path := path = "/"
  contained root path := root.toList.isPrefixOf path.toList

def host : ConsentHost where
  binding :=
    { git := true, canonicalDirectory := some, inspectSource := fun _ _ => .ok source }
  executableDigest _ := .ok digest

def agent : AgentConfig where
  name := "Builder"
  adapter := "codex"
  runtimeKind := "codex"
  presetVersion := 5
  command := ["codex"]
  sandbox := "workspace-write"
  codexSessionConflictPolicy := ""
  envAllowlist := []

def roster : Roster where
  agents := [agent]
  identities _ := "agent_sample01"
  named := by decide
  distinct := by decide
  identified := by decide
  unambiguous := by decide

def profile : RuntimeProfileSpec :=
  ⟨"profile_sample01", 1, "agent_sample01", "codex", digest, "workspace"⟩

def verifier : VerifierSpec := ⟨"profile_tests001", 1, ["/bin/make"], [], 1000, 1024⟩

def boundary : ProfileBoundary :=
  ⟨digest, digest, "workspace_write_outside_deny", "ipv4_loopback_connect_deny",
    "darwin/arm64"⟩

/-- What the consents below differ in. -/
structure Terms where
  planRevision : Nat
  operations : List Operation
  pins : List ProfilePin
  targets : List IntegrationTarget

/-- Consent to a Task's Runtime. -/
def grant (terms : Terms) : TaskGrantSpec where
  grantId := "grant_sample01"
  bindingId := "repobind_sample01"
  bindingRevision := 1
  sourceFingerprint := digest
  repositoryId := "repo_sample01"
  baseCommit := commit
  planId := "plan_sample01"
  planRevision := terms.planRevision
  planDigest := digest
  nodeKey := "write"
  roomId := "room_sample01"
  taskId := "task_write0001"
  definitionRevision := 1
  criteriaRevision := 1
  agentId := "agent_sample01"
  expiresAt := "later"
  operations := terms.operations
  runtimeProfile := ⟨"profile_sample01", 1, digest⟩
  verificationProfiles := terms.pins
  scopePolicy := ⟨.isolatedWrite, ["src"], [], false⟩
  integrationTargets := terms.targets

def target : IntegrationTarget := ⟨"repo_sample01", "refs/heads/main", commit⟩

def bindingRecord : BindingRecord :=
  ⟨"repobind_sample01", "repo_sample01", "sample", bridge.owner, ["/work"], source, 0⟩

def profileRecord : RuntimeProfileRecord := ⟨bridge.owner, profile, boundary, 0⟩

def verifierRecord : VerifierRecord := ⟨bridge.owner, verifier, digest, 0⟩

/-- The stores once a repository is bound. -/
def bound : Stores :=
  { Stores.empty with bindings := Table.empty.put "repobind_sample01" (bindingRecord, none) }

/-- The stores once a Runtime profile is registered too. -/
def profiled : Stores :=
  { bound with profiles := Table.empty.put "profile_sample01" (profileRecord, none) }

/-- The stores once a verifier profile is registered too. -/
def registered : Stores :=
  { profiled with verifiers := Table.empty.put "profile_tests001" (verifierRecord, none) }

/-- The stores once a grant is issued too. -/
def issued (terms : Terms) : Stores :=
  { registered with
    grants := Table.empty.put "grant_sample01"
      (⟨bridge.owner, grant terms, 0⟩, none) }

def binding : BindRepository :=
  ⟨"repobind_sample01", "repo_sample01", "sample", "/work/repo", ["/work"]⟩

/-- What the samples are checked for by computing it. -/
structure Computed : Prop where
  binding_id : bindingPattern "repobind_sample01" = true
  binding_sound : bindingSound bridge "repobind_sample01" bindingRecord = true
  binding_fit : bindingPattern binding.bindingId = true ∧
    repositoryPattern binding.repositoryId = true ∧
    validBindingAlias bridge binding.aliasName = true ∧
    binding.allowedRoots ≠ [] ∧ binding.allowedRoots.length ≤ 16 ∧ host.binding.git = true
  apart : bridge.contained source.root bridge.dataRoot = false ∧
    bridge.contained bridge.dataRoot source.root = false
  profile_id : profilePattern "profile_sample01" = true
  stable_key : stableKey "workspace" = true ∧ stableKey "write" = true
  codex : agentPattern "agent_sample01" = true ∧ agent.runtimeKind = "codex" ∧
    agent.adapter = "codex" ∧ agent.presetVersion = 5 ∧ agent.sandbox = "workspace-write" ∧
    agent.command.head?.any (fun c => bridge.unicode.trimSpace c.toList ≠ []) = true ∧
    stableKey "workspace" = true
  verifier_kept : (verifierRecord.spec.normalize bridge).expect ConsentError.changed = .ok verifier
  verifier_normal : verifier.normalize bridge = .ok verifier
  configured : roster.configuredAgentsByID "agent_sample01" = some agent
  grant_id : grantPattern "grant_sample01" = true
  frozen : Repository.freezeScopePolicy bridge.unicode
    (pathPolicy ⟨.isolatedWrite, ["src"], [], false⟩) =
      .ok (pathPolicy ⟨.isolatedWrite, ["src"], [], false⟩)
  parses_later : bridge.parseTime "later" = some 100

theorem computed : Computed := by constructor <;> decide

def summary (terms : Terms) :
    ExecutionGrantSummary :=
  (TaskGrantRecord.mk bridge.owner (grant terms) 0).summary bridge

/-- What the consent has to be in order for. -/
structure InOrder (terms : Terms) : Prop where
  schema : (summary terms).schema bridge = true
  revision : Plan.revisionWithin terms.planRevision = true
  sortedOperations : terms.operations.insertionSort (fun a b => a.text ≤ b.text) = terms.operations
  sortedPins : terms.pins.insertionSort (fun a b => a.profileId ≤ b.profileId) = terms.pins
  distinctPins : (terms.pins.map (·.profileId)).Nodup
  verify : terms.pins = [] ∨ .verify ∈ terms.operations
  verified : (terms.pins.all fun pin =>
    (Verifiers.resolve bridge host.executableDigest registered.verifiers pin).isOk) = true
  sortedTargets : terms.targets.insertionSort (fun a b => a.targetRef ≤ b.targetRef) = terms.targets
  fit : (terms.targets.all fun target => target.repositoryId = "repo_sample01" &&
    validGrantTarget target.targetRef) = true ∧ (terms.targets.map (·.targetRef)).Nodup

theorem reads_binding : (bindingReader bridge).view "repobind_sample01" bindingRecord none =
    .ok (bindingRecord.view bridge) := by
  unfold bindingReader
  dsimp only
  rw [Except.require_bind (by exact computed.binding_id), Except.require_bind (by rfl),
    Except.require_bind (by exact computed.binding_sound)]
  rfl

theorem digest_text : digestText digest = true := (digestText_ofList _).trans (by decide)

theorem commit_text : gitObjectId commit = true := (gitObjectId_ofList _).trans (by decide)

theorem ids : markedId "repobind_" 128 "repobind_sample01" = true ∧
    markedId "repo_" 128 "repo_sample01" = true ∧
    markedId "profile_" 128 "profile_sample01" = true ∧
    markedId "agent_" 128 "agent_sample01" = true ∧
    markedId "grant_" 128 "grant_sample01" = true ∧
    markedId "device_" 128 "device_sample01" = true ∧
    markedId "plan_" 128 "plan_sample01" = true ∧
    markedId "task_" 128 "task_write0001" = true ∧
    markedId "room_" 128 "room_sample01" = true := by
  refine ⟨?_, ?_, ?_, ?_, ?_, ?_, ?_, ?_, ?_⟩ <;>
    exact (markedId_ofList _ _ _).trans (by decide)

theorem profile_valid : profile.valid = true := by
  simp [RuntimeProfileSpec.valid, profile, profilePattern, agentPattern, ids, digest_text,
    computed.stable_key]

theorem boundary_valid : boundary.valid = true := by
  simp [ProfileBoundary.valid, boundary, digest_text]

theorem policy_digest : codexConfigurationDigest bridge agent "agent_sample01" "workspace" =
    .ok digest := by
  unfold codexConfigurationDigest
  rw [Except.require_bind (by exact computed.codex),
    Except.require_bind (by exact ⟨List.nil_subset _, List.nodup_nil⟩)]
  rfl

theorem reads_profile : (profileReader bridge).view "profile_sample01" profileRecord none =
    .ok (profileRecord.view bridge) := by
  unfold profileReader
  dsimp only
  rw [Except.require_bind (by exact computed.profile_id), Except.require_bind (by rfl),
    Except.require_bind (by exact ⟨rfl, rfl, profile_valid, boundary_valid⟩)]
  rfl

theorem binds : Bindings.bind bridge host.binding .empty binding 0 =
    .ok (bindingRecord.view bridge, bound.bindings) := by
  unfold Bindings.bind
  rw [Except.require_bind (by exact computed.binding_fit), Except.bind_of_ok (a := none) (by rfl),
    Except.require_bind (by rfl), Except.bind_of_ok (a := ["/work"]) (by rfl)]
  dsimp only
  rw [Except.require_bind (by decide), Except.bind_of_ok (a := source) (by rfl),
    Except.require_bind (by exact computed.apart), Except.bind_of_ok (a := []) (by rfl),
    Except.require_bind (by decide), Except.require_bind (by decide)]
  exact Registry.write_of_view reads_binding

theorem registers : RuntimeProfiles.registerCodex bridge .empty ⟨profile, agent⟩
    (.ok ⟨boundary, "workspace", 0⟩) 0 = .ok (profileRecord.view bridge, profiled.profiles) := by
  unfold RuntimeProfiles.registerCodex
  rw [Except.require_bind (by exact profile_valid),
    Except.bind_of_ok (a := digest) (by exact policy_digest), Except.require_bind (by rfl),
    Except.bind_of_ok (a := none) (by rfl),
    Except.require_bind (by rfl), Except.require_bind (by rfl), Except.bind_of_ok (a := _) (by rfl),
    Except.require_bind (by exact ⟨boundary_valid, rfl, rfl⟩)]
  dsimp only
  rw [Except.bind_of_ok (a := []) (by rfl), Except.require_bind (by decide),
    Except.require_bind (by decide)]
  exact Registry.write_of_view reads_profile

theorem reads_verifier : (verifierReader bridge).view "profile_tests001" verifierRecord none =
    .ok (verifierRecord.view bridge) := by
  unfold verifierReader
  dsimp only
  rw [Except.require_bind (by exact (markedId_ofList _ _ _).trans (by decide)),
    Except.require_bind (by rfl),
    Except.bind_of_ok (a := verifier) (by exact computed.verifier_kept),
    Except.require_bind (by exact ⟨rfl, rfl, rfl⟩)]
  rfl

theorem registers_verifier :
    Verifiers.register bridge host.executableDigest profiled.verifiers verifier 0 =
      .ok (verifierRecord.view bridge, registered.verifiers) := by
  unfold Verifiers.register
  rw [Except.bind_of_ok (a := verifier) (by exact computed.verifier_normal),
    Except.bind_of_ok (a := digest) (by rfl)]
  dsimp only
  rw [Except.bind_of_ok (a := none) (by rfl)]
  dsimp only
  rw [Except.bind_of_ok (a := []) (by rfl), Except.require_bind (by decide),
    Except.require_bind (by decide)]
  exact Registry.write_of_view reads_verifier

theorem resolves : RuntimeProfiles.resolveRuntime bridge registered.profiles
    ⟨"profile_sample01", 1, digest⟩ "agent_sample01" agent = .ok (profileRecord.view bridge) := by
  have hget : Registry.get (profileReader bridge) registered.profiles "profile_sample01" =
      .ok (profileRecord.view bridge) :=
    Registry.get_eq_ok.mpr ⟨_, Table.get_put_self _ _ _, reads_profile⟩
  unfold RuntimeProfiles.resolveRuntime
  rw [Except.bind_of_ok hget, Except.require_bind (by rfl),
    Except.bind_of_ok (a := digest) (by exact Except.expect_eq_ok.mpr policy_digest),
    Except.require_bind (by exact ⟨rfl, rfl, rfl, rfl, rfl⟩)]
  rfl

theorem resolves_verifier :
    (Verifiers.resolve bridge host.executableDigest registered.verifiers
      ⟨"profile_tests001", 1, digest⟩).isOk = true := by
  have hfound : Registry.find (verifierReader bridge) registered.verifiers "profile_tests001" =
      .ok ⟨verifierRecord, verifierRecord.view bridge⟩ :=
    Registry.find_of_get (Table.get_put_self _ _ _) reads_verifier
  unfold Verifiers.resolve
  rw [Except.bind_of_ok hfound, Except.require_bind (by rfl),
    Except.require_bind (by exact ⟨rfl, rfl⟩), Except.bind_of_ok (a := digest) (by rfl),
    Except.require_bind (by rfl)]
  rfl

theorem commit_length : commit.length = 40 := String.length_ofList

section Issue

variable {terms : Terms}

theorem finds : Registry.find (bindingReader bridge) registered.bindings "repobind_sample01" =
    .ok ⟨bindingRecord, bindingRecord.view bridge⟩ :=
  Registry.find_of_get (Table.get_put_self _ _ _) reads_binding

theorem sources : Bindings.resolveSource bridge host.binding registered.bindings
    "repobind_sample01" "repo_sample01" 1 = .ok source := by
  unfold Bindings.resolveSource
  rw [Except.require_bind (by rfl),
    Except.bind_of_ok (a := ⟨bindingRecord, bindingRecord.view bridge⟩) (by exact finds),
    Except.require_bind (by rfl), Except.require_bind (by exact ⟨rfl, rfl⟩),
    Except.bind_of_ok (a := source) (by rfl), Except.require_bind (by rfl)]
  rfl

theorem checks_binding : checkGrantBinding bridge host.binding registered.bindings
    (grant terms) = .ok () := by
  unfold checkGrantBinding
  rw [Except.bind_of_ok (a := ⟨bindingRecord, bindingRecord.view bridge⟩) (by exact finds),
    Except.require_bind (by rfl), Except.require_bind (by exact ⟨rfl, rfl, rfl⟩),
    Except.require_bind (by rfl), Except.require_bind (by exact commit_length),
    Except.bind_of_ok (a := source) (by rfl)]
  exact Except.require_eq_ok.mpr rfl

theorem InOrder.summarised (horder : InOrder terms) :
    taskGrantSummary bridge ⟨bridge.owner, grant terms, 0⟩ =
      .ok (summary terms) := by
  unfold taskGrantSummary
  rw [Except.require_bind (by rfl), Except.require_bind (by exact ⟨rfl, horder.schema⟩)]
  rfl

theorem InOrder.normal (horder : InOrder terms) :
    normalizeTaskGrant bridge (grant terms) bridge.owner 0 =
      .ok (grant terms) := by
  have hids := ids
  unfold normalizeTaskGrant
  rw [Except.require_bind (by exact Nat.le_of_ble_eq_true rfl),
    Except.require_bind (by
      have hrevision : Plan.revisionWithin (grant terms).planRevision =
        true := horder.revision
      rw [hrevision]
      simp [grant, grantPattern, hids, digest_text, commit_text, Plan.revisionWithin,
        Plan.natWithin]),
    Except.require_bind (by exact Nat.le_of_ble_eq_true rfl),
    Except.require_bind (by rw [horder.summarised]; rfl),
    Except.bind_of_ok (a := pathPolicy ⟨.isolatedWrite, ["src"], [], false⟩)
      (by exact Except.expect_eq_ok.mpr computed.frozen)]
  dsimp only
  rw [show (grant terms).operations = terms.operations from rfl,
    horder.sortedOperations,
    show (grant terms).verificationProfiles = terms.pins from rfl, horder.sortedPins,
    show (grant terms).integrationTargets = terms.targets from rfl,
    horder.sortedTargets, Except.require_bind (by exact horder.distinctPins),
    Except.require_bind (by exact horder.fit)]
  rfl

theorem parses_later : bridge.parseTime "later" = some 100 := computed.parses_later

theorem expires_later : (bridge.parseTime "later").any (0 < ·) = true := by
  rw [parses_later]
  rfl

theorem reads_grant (horder : InOrder terms) :
    (grantReader bridge).view "grant_sample01"
      ⟨bridge.owner, grant terms, 0⟩ none =
      .ok ⟨grant terms, summary terms⟩ := by
  unfold grantReader
  dsimp only
  rw [Except.require_bind (by exact computed.grant_id), Except.require_bind (by rfl),
    Except.require_bind (by exact ⟨rfl, rfl⟩),
    Except.bind_of_ok (a := grant terms)
      (by exact Except.expect_eq_ok.mpr horder.normal),
    Except.require_bind (by exact ⟨rfl, expires_later⟩),
    Except.bind_of_ok (a := summary terms)
      (by exact Except.expect_eq_ok.mpr horder.summarised)]
  rfl

/-- A consent that is in order is issued. -/
theorem issues (horder : InOrder terms) :
    repositoryGrantIssue bridge host registered roster
      (grant terms) 0 =
        .ok (⟨grant terms, summary terms⟩,
          (issued terms).grants) := by
  have hresolved : (RuntimeProfiles.resolveRuntime bridge registered.profiles
      ⟨"profile_sample01", 1, digest⟩ "agent_sample01" agent).isOk = true := by
    rw [resolves]
    rfl
  unfold repositoryGrantIssue
  rw [Except.bind_of_ok (a := agent) (by exact Except.demand_eq_ok.mpr computed.configured),
    Except.require_bind (by exact .inr ⟨hresolved, horder.verified⟩)]
  unfold TaskGrants.issueTaskGrant
  rw [Except.bind_of_ok horder.normal, Except.bind_of_ok (a := none) (by rfl),
    Except.require_bind (by rfl), Except.require_bind (by rfl),
    Except.require_bind (by exact ⟨expires_later, rfl⟩),
    Except.bind_of_ok (a := ()) (by exact checks_binding)]
  dsimp only
  rw [Except.bind_of_ok (a := []) (by rfl), Except.require_bind (by decide)]
  exact Registry.write_of_view (reads_grant horder)

/-- The owner binds a repository, registers a Runtime profile and issues a grant. -/
theorem reaches (horder : InOrder terms) :
    (consent bridge).Reachable (issued terms) := by
  have hbind : OwnerCommand.run bridge .empty 0 (.bind host.binding binding) = .ok bound := by
    change (Bindings.bind bridge host.binding .empty binding 0 >>= _) = _
    rw [Except.bind_of_ok binds]
    rfl
  have hregister : OwnerCommand.run bridge bound 0
      (.registerCodex ⟨profile, agent⟩ (.ok ⟨boundary, "workspace", 0⟩)) = .ok profiled := by
    change (RuntimeProfiles.registerCodex bridge .empty ⟨profile, agent⟩
      (.ok ⟨boundary, "workspace", 0⟩) 0 >>= _) = _
    rw [Except.bind_of_ok registers]
    rfl
  have hverifier : OwnerCommand.run bridge profiled 0
      (.registerVerifier host.executableDigest verifier) = .ok registered := by
    change (Verifiers.register bridge host.executableDigest profiled.verifiers verifier 0 >>= _) = _
    rw [Except.bind_of_ok registers_verifier]
    rfl
  have hissue : OwnerCommand.run bridge registered 0
      (.issueTaskGrant host roster (grant terms)) =
        .ok (issued terms) := by
    change (repositoryGrantIssue bridge host registered roster
      (grant terms) 0 >>= _) = _
    rw [Except.bind_of_ok (issues horder)]
    rfl
  have hreach := System.reachable_init (L := consent bridge) (s := .empty) rfl
  exact System.reachable_step (i := (_, 0)) (System.reachable_step (i := (_, 0))
    (System.reachable_step (i := (_, 0)) (System.reachable_step (i := (_, 0)) hreach hbind)
      hregister) hverifier) hissue

/-- Its Agent's selection, while the grant is in force. -/
def selection (terms : Terms) : AgentGrants :=
  Table.empty.put "agent_sample01" [summary terms]

/-- **Consent to prepare and to capture is selected**, whatever else it is to. -/
theorem selects (horder : InOrder terms)
    (hready : (grant terms).runtimeReady = true) :
    readyAgentGrants bridge host (issued terms) roster 5 =
      .ok (selection terms) := by
  have hprofiles : profilesResolve bridge host (issued terms)
      (grant terms) agent = true := by
    unfold profilesResolve
    rw [Bool.and_eq_true]
    refine ⟨?_, ?_⟩
    swap
    · change (decide (terms.pins = []) || decide (.verify ∈ terms.operations) &&
          terms.pins.all fun pin =>
        (Verifiers.resolve bridge host.executableDigest registered.verifiers pin).isOk) = true
      rw [horder.verified]
      simpa using horder.verify
    change (RuntimeProfiles.resolveRuntime bridge registered.profiles
      ⟨"profile_sample01", 1, digest⟩ "agent_sample01" agent).isOk = true
    rw [resolves]
    rfl
  -- the grant is usable: source, Agent, expiry and profiles resolve
  have husable : usable bridge host (issued terms) roster 5
      ⟨grant terms, summary terms⟩ = true := by
    have hsource : (Bindings.resolveSource bridge host.binding registered.bindings
        "repobind_sample01" "repo_sample01" 1).isOk = true := by
      rw [sources]
      rfl
    have hagent : roster.configuredAgentsByID
        (grant terms).agentId = some agent := computed.configured
    unfold usable
    dsimp only
    rw [hagent]
    rw [show bridge.parseTime (summary terms).grant.expiresAt = some 100 from
      parses_later]
    change (true && true && true && true &&
      ((grant terms).runtimeReady || _) && true &&
      (!(grant terms).runtimeReady || profilesResolve bridge host
        (issued terms) (grant terms) agent) &&
      (Bindings.resolveSource bridge host.binding registered.bindings "repobind_sample01"
        "repo_sample01" 1).isOk) = true
    rw [hready, hprofiles, hsource]
    rfl
  -- each registry lists its one row
  have hgrants : TaskGrants.list bridge (issued terms).grants =
      .ok [⟨grant terms, summary terms⟩] := by
    unfold TaskGrants.list
    rw [Except.require_bind (by exact Nat.le_of_ble_eq_true rfl),
      Except.bind_of_ok (by exact Registry.list_single (reads_grant horder)),
      Except.require_bind (by exact Nat.le_of_ble_eq_true rfl)]
    rfl
  have hbindings : Bindings.list bridge (issued terms).bindings =
      .ok [bindingRecord.view bridge] := by
    unfold Bindings.list
    rw [Except.require_bind (by exact Nat.le_of_ble_eq_true rfl),
      Except.bind_of_ok (by exact Registry.list_single reads_binding),
      Except.require_bind (by decide)]
    rfl
  have hregistered : RuntimeProfiles.list bridge (issued terms).profiles =
      .ok [profileRecord.view bridge] := by
    unfold RuntimeProfiles.list
    rw [Except.require_bind (by exact Nat.le_of_ble_eq_true rfl),
      Except.bind_of_ok (by exact Registry.list_single reads_profile),
      Except.require_bind (by decide)]
    rfl
  have hverifiers : Verifiers.list bridge (issued terms).verifiers =
      .ok [verifierRecord.view bridge] :=
    Registry.list_single reads_verifier
  unfold readyAgentGrants
  rw [Except.bind_of_ok hbindings, Except.bind_of_ok hgrants, Except.bind_of_ok hregistered,
    Except.bind_of_ok hverifiers, if_pos (by rfl)]
  unfold selectReady
  rw [if_pos husable]
  rfl

end Issue

/-- Consent to prepare, to capture and to integrate. -/
def mixed : Terms := ⟨1, [.capture, .integrate, .prepare], [], [target]⟩

theorem mixed_inOrder : InOrder mixed where
  schema := by
    have hids := ids
    have htarget : target.schema = true := by decide
    have hpolicy : (Plan.ScopePolicy.mk .isolatedWrite ["src"] [] false).schema = true := by
      decide +kernel
    simp [mixed, ExecutionGrantSummary.schema, summary, TaskGrantRecord.summary, grant, bridge,
      grantPattern, repositoryPattern, bindingPattern, hids, digest_text,
      computed.stable_key, htarget,
      hpolicy, Plan.itemsWithin, ProfilePin.schema, Plan.revisionWithin, Plan.natWithin]
  revision := rfl
  sortedOperations := by decide
  sortedPins := rfl
  distinctPins := List.nodup_nil
  verify := .inl rfl
  verified := rfl
  sortedTargets := rfl
  fit := by decide

/-- Where the selection is accepted, so is each summary of it. -/
theorem refused : (validatePreparedRuns bridge roster bridge.owner.deviceId
    (readyNames roster (selection mixed))).isOk = false := by
  rw [← Bool.not_eq_true]
  intro hok
  rcases hvalid : validatePreparedRuns bridge roster bridge.owner.deviceId
    (readyNames roster (selection mixed)) with e | u
  · rw [hvalid] at hok
    cases hok
  · have hname : roster.agentNames "agent_sample01" = "Builder" := by
      unfold Roster.agentNames
      rw [computed.configured]
      rfl
    have hset := validatePreparedRuns_iff.mp hvalid "agent_sample01" rfl (by rw [hname]; simp)
    obtain ⟨-, -, -, haccepted, -⟩ := validateGrantSet_iff.mp hset
    exact absurd (haccepted (summary mixed)
      (List.mem_singleton_self _)).ready (by decide)

end ConsentSample

/-- An owner is allowed to issue a grant whose selection the connection refuses. -/
theorem mixed_grant_refused :
    ∃ s, (consent ConsentSample.bridge).Reachable s ∧
      ∃ ready, readyAgentGrants ConsentSample.bridge ConsentSample.host s ConsentSample.roster 5 =
          .ok ready ∧
        (validatePreparedRuns ConsentSample.bridge ConsentSample.roster
          ConsentSample.bridge.owner.deviceId (readyNames ConsentSample.roster ready)).isOk =
          false :=
  ⟨_, ConsentSample.reaches ConsentSample.mixed_inOrder, _,
    ConsentSample.selects ConsentSample.mixed_inOrder rfl, ConsentSample.refused⟩

end AgentRoom.Consent
