import AgentRoom.Consent.Grants
import AgentRoom.Consent.Profiles

/-!
# Readiness

What a Bridge publishes when it connects: `ReadyAgentGrants` selects the grants that can be used
now, the preparation of Runs names them by their Agents, and `validatePreparedRuns` is the
connection's own check of the result.

A context that ends during a call is the end of the Bridge, and is left out.

The selection, the naming by Agents and the connection's check are each described by what they say
of one Agent's grants. Together: a selection that succeeds is published when each of its grants is
one the connection accepts.
-/

namespace AgentRoom.Consent

open Except (demand require)

section Bridge

variable (B : Bridge)

/-- **The configured Agents**, with the identities of `identity.LoadOrCreate`, which refuses two
Agents of one identity. -/
structure Roster where
  agents : List AgentConfig
  identities : String → String
  named : ∀ agent ∈ agents, agent.name ≠ ""
  distinct : (agents.map (·.name)).Nodup
  identified : ∀ agent ∈ agents, identities agent.name ≠ ""
  unambiguous : (agents.map fun agent => identities agent.name).Nodup

def Roster.configuredAgentsByID (roster : Roster) (agentId : String) : Option AgentConfig :=
  roster.agents.find? fun agent => roster.identities agent.name = agentId

/-- `agentNames`, empty for an identity that is not configured. -/
def Roster.agentNames (roster : Roster) (agentId : String) : String :=
  ((roster.configuredAgentsByID agentId).map (·.name)).getD ""

/-- What the host answers when a Bridge selects or issues grants. -/
structure ConsentHost where
  binding : BindingHost
  executableDigest : String → Except ConsentError String

/-! ## Selection -/

/-- `runtimeReady`, as `ReadyAgentGrants` has it. -/
def TaskGrantSpec.runtimeReady (spec : TaskGrantSpec) : Bool :=
  .prepare ∈ spec.operations && .capture ∈ spec.operations

/-- `integrationReady`, as `ReadyAgentGrants` has it. -/
def TaskGrantSpec.integrationReady (spec : TaskGrantSpec) : Bool :=
  spec.operations = [.integrate] && spec.integrationTargets.length = 1

/-- Whether the profiles of a Runtime grant resolve. -/
def profilesResolve (host : ConsentHost) (s : Stores) (spec : TaskGrantSpec)
    (agent : AgentConfig) : Bool :=
  (RuntimeProfiles.resolveRuntime B s.profiles spec.runtimeProfile spec.agentId agent).isOk &&
    (spec.verificationProfiles = [] || .verify ∈ spec.operations &&
      spec.verificationProfiles.all fun pin =>
        (Verifiers.resolve B host.executableDigest s.verifiers pin).isOk)

/-- The conditions under which `ReadyAgentGrants` takes a grant. -/
def usable (host : ConsentHost) (s : Stores) (roster : Roster) (now : Time)
    (grant : TaskGrantView) : Bool :=
  match B.parseTime grant.summary.grant.expiresAt,
      roster.configuredAgentsByID grant.spec.agentId with
  | some expiresAt, some agent =>
    grant.summary.issuedAt ≤ now && now < expiresAt && grant.summary.revokedAt.isNone &&
      grant.summary.grant.revision = 1 &&
      (grant.spec.runtimeReady || grant.spec.integrationReady) &&
      !grant.spec.scopePolicy.requirePreventivePathEnforcement &&
      (!grant.spec.runtimeReady || profilesResolve B host s grant.spec agent) &&
      (Bindings.resolveSource B host.binding s.bindings grant.spec.bindingId
        grant.spec.repositoryId grant.spec.bindingRevision).isOk
  | _, _ => false

abbrev AgentGrants := Table String (List ExecutionGrantSummary)

/-- The loop of `ReadyAgentGrants` over the grants. -/
def selectReady (accepts : TaskGrantView → Bool) (ready : AgentGrants) :
    List TaskGrantView → Except ConsentError AgentGrants
  | [] => .ok ready
  | grant :: rest =>
    if accepts grant then
      let grants := (ready.get grant.spec.agentId).getD [] ++ [grant.summary]
      if 64 < grants.length then .error .invalid
      else selectReady accepts (ready.put grant.spec.agentId grants) rest
    else selectReady accepts ready rest

/-- Whether there is a coordinator: a Git executable, and an Agent. -/
def coordinates (host : ConsentHost) (roster : Roster) : Bool :=
  host.binding.git && roster.agents ≠ []

/-- **`ReadyAgentGrants`.** -/
def readyAgentGrants (host : ConsentHost) (s : Stores) (roster : Roster) (now : Time) :
    Except ConsentError AgentGrants := do
  let _ ← Bindings.list B s.bindings
  let grants ← TaskGrants.list B s.grants
  let _ ← RuntimeProfiles.list B s.profiles
  let _ ← Verifiers.list B s.verifiers
  if coordinates host roster then do
    let ready ← selectReady (usable B host s roster now) .empty grants
    pure (ready.mapRows (·.insertionSort fun a b => a.grant.grantId ≤ b.grant.grantId))
  else pure .empty

/-! ## The connection's check -/

/-- What the preparation of Runs makes of the selection: the grants under the Agents' names. -/
def readyNames (roster : Roster) (ready : AgentGrants) : AgentGrants :=
  ready.keys.foldl
    (fun names agentId =>
      if roster.agentNames agentId ≠ "" then
        names.put (roster.agentNames agentId) ((ready.get agentId).getD [])
      else names)
    .empty

/-- Errors of `validatePreparedRuns`. -/
inductive PreparedError where
  | unknownAgent
  | invalidGrantSet
  | invalidGrant
  deriving DecidableEq

/-- `runtimeReady`, as `validatePreparedRuns` has it. -/
def ExecutionGrantSummary.runtimeReady (s : ExecutionGrantSummary) : Bool :=
  .prepare ∈ s.operations && .capture ∈ s.operations && s.integrationTargets = []

/-- `integrationReady`, as `validatePreparedRuns` has it. -/
def ExecutionGrantSummary.integrationReady (s : ExecutionGrantSummary) : Bool :=
  s.operations = [.integrate] && s.integrationTargets ≠ []

/-- The loop of `validatePreparedRuns` over the grants of an Agent. -/
def validateGrants (deviceId : String) (seen : List String) :
    List ExecutionGrantSummary → Except PreparedError Unit
  | [] => .ok ()
  | grant :: rest => do
      require (grant.agentId ≠ "" ∧ grant.deviceId = deviceId ∧ grant.grant.grantId ∉ seen ∧
        grant.revokedAt = none ∧ (grant.runtimeReady || grant.integrationReady) = true)
        PreparedError.invalidGrant
      validateGrants deviceId (grant.grant.grantId :: seen) rest

/-- `governedAgentCapability`, as a check. -/
def governedAgentCapability (grants : List ExecutionGrantSummary) : Except PreparedError Unit :=
  require ((grants.all fun grant => B.canonical (.grantSummary grant) && grant.schema B) = true)
    .invalidGrant

/-- The checks of one Agent's grants. -/
def validateGrantSet (roster : Roster) (deviceId name : String)
    (grants : List ExecutionGrantSummary) : Except PreparedError Unit := do
  require (grants = [] ∨ name ∈ roster.agents.map (·.name)) .unknownAgent
  require (grants ≠ [] ∧ grants.length ≤ 64) .invalidGrantSet
  validateGrants deviceId [] grants
  governedAgentCapability B grants

/-- **`validatePreparedRuns`**, of the grants. -/
def validatePreparedRuns (roster : Roster) (deviceId : String) (prepared : AgentGrants) :
    Except PreparedError Unit :=
  prepared.keys.forM fun name =>
    validateGrantSet B roster deviceId name ((prepared.get name).getD [])

/-! ## The owner's commands -/

/-- The commands of a local owner, with what the host answers them. -/
inductive OwnerCommand where
  | bind (host : BindingHost) (input : BindRepository)
  | revokeBinding (bindingId : String) (expectedRevision : Nat)
  | registerCodex (input : CodexRegistration) (probe : Except ConsentError ProbeResult)
  | revokeProfile (profileId : String) (expectedRevision : Nat) (expectedDigest : String)
  | registerVerifier (executableDigest : String → Except ConsentError String) (spec : VerifierSpec)
  | revokeVerifier (profileId : String) (expectedRevision : Nat) (expectedDigest : String)
  | issueTaskGrant (host : ConsentHost) (roster : Roster) (spec : TaskGrantSpec)
  | revokeTaskGrant (grantId : String) (expectedRevision : Nat) (expectedDigest : String)

/-- `repository grant issue`: unless only integration is consented to, the profiles must resolve
before the grant is issued. -/
def repositoryGrantIssue (host : ConsentHost) (s : Stores) (roster : Roster)
    (spec : TaskGrantSpec) (now : Time) : Except ConsentError (TaskGrantView × TaskGrants) := do
  let agent ← demand (roster.configuredAgentsByID spec.agentId) .invalid
  require (spec.operations = [.integrate] ∨
    ((RuntimeProfiles.resolveRuntime B s.profiles spec.runtimeProfile spec.agentId agent).isOk ∧
      spec.verificationProfiles.all (fun pin =>
        (Verifiers.resolve B host.executableDigest s.verifiers pin).isOk) = true)) .invalid
  TaskGrants.issueTaskGrant B host.binding s.bindings s.grants spec now

def OwnerCommand.run (s : Stores) (now : Time) : OwnerCommand → Except ConsentError Stores
  | .bind host input => do
      let (_, bindings) ← Bindings.bind B host s.bindings input now
      pure { s with bindings }
  | .revokeBinding bindingId expectedRevision => do
      let (_, bindings) ← Bindings.revoke B s.bindings bindingId expectedRevision now
      pure { s with bindings }
  | .registerCodex input probe => do
      let (_, profiles) ← RuntimeProfiles.registerCodex B s.profiles input probe now
      pure { s with profiles }
  | .revokeProfile profileId expectedRevision expectedDigest => do
      let (_, profiles) ←
        RuntimeProfiles.revoke B s.profiles profileId expectedRevision expectedDigest now
      pure { s with profiles }
  | .registerVerifier executableDigest spec => do
      let (_, verifiers) ← Verifiers.register B executableDigest s.verifiers spec now
      pure { s with verifiers }
  | .revokeVerifier profileId expectedRevision expectedDigest => do
      let (_, verifiers) ←
        Verifiers.revoke B s.verifiers profileId expectedRevision expectedDigest now
      pure { s with verifiers }
  | .issueTaskGrant host roster spec => do
      let (_, grants) ← repositoryGrantIssue B host s roster spec now
      pure { s with grants }
  | .revokeTaskGrant grantId expectedRevision expectedDigest => do
      let (_, grants) ←
        TaskGrants.revokeTaskGrant B s.grants grantId expectedRevision expectedDigest now
      pure { s with grants }

end Bridge

/-! ## What a Bridge publishes -/

section Selected

def grantsOf (t : AgentGrants) (agentId : String) : List ExecutionGrantSummary :=
  (t.get agentId).getD []

/-! ### Selection -/

/-- The accepted grants of an Agent, in the order of the views. -/
def accepted (accepts : TaskGrantView → Bool) (views : List TaskGrantView) (agentId : String) :
    List ExecutionGrantSummary :=
  (views.filter fun g => accepts g && g.spec.agentId = agentId).map (·.summary)

section Selection

variable {accepts : TaskGrantView → Bool} {ready ready' : AgentGrants} {views : List TaskGrantView}
  {g : TaskGrantView} {agentId : String}

theorem accepted_cons_of (h : accepts g = true) :
    accepted accepts (g :: views) agentId =
      if g.spec.agentId = agentId then g.summary :: accepted accepts views agentId
      else accepted accepts views agentId := by
  unfold accepted
  by_cases hid : g.spec.agentId = agentId <;> simp [h, hid]

theorem accepted_cons_not (h : accepts g = false) :
    accepted accepts (g :: views) agentId = accepted accepts views agentId := by
  simp [accepted, h]

theorem mem_accepted {s : ExecutionGrantSummary} : s ∈ accepted accepts views agentId ↔
    ∃ g ∈ views, accepts g = true ∧ g.spec.agentId = agentId ∧ g.summary = s := by
  simp [accepted, and_assoc]

theorem grantsOf_put (t : AgentGrants) (k : String) (grants : List ExecutionGrantSummary)
    (agentId : String) :
    grantsOf (t.put k grants) agentId = if agentId = k then grants else grantsOf t agentId := by
  unfold grantsOf
  rw [Table.get_put]
  split <;> rfl

/-- What the loop leaves: each Agent's grants with the accepted ones after them. -/
structure Selected (accepts : TaskGrantView → Bool) (views : List TaskGrantView)
    (ready ready' : AgentGrants) : Prop where
  grants : ∀ agentId,
    grantsOf ready' agentId = grantsOf ready agentId ++ accepted accepts views agentId
  present : ∀ agentId, (ready'.get agentId).isSome →
    (ready.get agentId).isSome ∨ accepted accepts views agentId ≠ []
  within : ∀ agentId, accepted accepts views agentId ≠ [] → (grantsOf ready' agentId).length ≤ 64

theorem selectReady_ok (h : selectReady accepts ready views = .ok ready') :
    Selected accepts views ready ready' := by
  induction views generalizing ready with
  | nil =>
    cases h
    exact ⟨fun _ => (List.append_nil _).symm, fun _ hsome => .inl hsome,
      fun _ hnone => absurd rfl hnone⟩
  | cons g rest ih =>
    unfold selectReady at h
    split at h
    · rename_i hg
      dsimp only at h
      split at h
      · cases h
      · rename_i hroom
        obtain ⟨hgrants, hpresent, hwithin⟩ := ih h
        refine ⟨fun agentId => ?_, fun agentId hsome => ?_, fun agentId hsome => ?_⟩
        · rw [hgrants, grantsOf_put, accepted_cons_of hg]
          by_cases hid : g.spec.agentId = agentId
          · subst hid
            simp [grantsOf]
          · rw [if_neg (Ne.symm hid), if_neg hid]
        · rw [accepted_cons_of hg]
          by_cases hid : g.spec.agentId = agentId
          · rw [if_pos hid]
            exact .inr (List.cons_ne_nil _ _)
          · rw [if_neg hid]
            have hold := hpresent agentId hsome
            rwa [Table.get_put_ne _ _ (Ne.symm hid)] at hold
        · by_cases hrest : accepted accepts rest agentId = []
          · -- nothing follows, so this grant is the Agent's last and was counted
            rw [accepted_cons_of hg, hrest] at hsome
            by_cases hid : g.spec.agentId = agentId
            · subst hid
              rw [hgrants, grantsOf_put, if_pos rfl, hrest, List.append_nil]
              exact Nat.le_of_not_lt hroom
            · rw [if_neg hid] at hsome
              exact absurd rfl hsome
          · exact hwithin agentId hrest
    · rename_i hg
      have hnot : accepts g = false := Bool.eq_false_iff.mpr hg
      obtain ⟨hgrants, hpresent, hwithin⟩ := ih h
      refine ⟨fun agentId => ?_, fun agentId hsome => ?_, fun agentId hsome => ?_⟩
      · rw [hgrants, accepted_cons_not hnot]
      · rw [accepted_cons_not hnot]
        exact hpresent agentId hsome
      · rw [accepted_cons_not hnot] at hsome
        exact hwithin agentId hsome

/-- The loop succeeds when no Agent gets more than its 64 grants. -/
theorem exists_selectReady
    (h : ∀ agentId, (grantsOf ready agentId ++ accepted accepts views agentId).length ≤ 64) :
    ∃ ready', selectReady accepts ready views = .ok ready' := by
  induction views generalizing ready with
  | nil => exact ⟨ready, rfl⟩
  | cons g rest ih =>
    unfold selectReady
    split
    · rename_i hg
      have hroom : ¬64 < ((ready.get g.spec.agentId).getD [] ++ [g.summary]).length := by
        have hbound := h g.spec.agentId
        rw [accepted_cons_of hg, if_pos rfl, List.length_append, List.length_cons] at hbound
        rw [List.length_append, List.length_singleton]
        unfold grantsOf at hbound
        omega
      dsimp only
      rw [if_neg hroom]
      refine ih fun agentId => ?_
      have hbound := h agentId
      rw [accepted_cons_of hg] at hbound
      rw [grantsOf_put]
      by_cases hid : g.spec.agentId = agentId
      · subst hid
        rw [if_pos rfl] at hbound ⊢
        simpa [grantsOf] using hbound
      · rw [if_neg hid] at hbound
        rwa [if_neg (Ne.symm hid)]
    · rename_i hg
      refine ih fun agentId => ?_
      have hbound := h agentId
      rwa [accepted_cons_not (Bool.eq_false_iff.mpr hg)] at hbound

end Selection

/-! ### Names -/

section Names

variable {roster : Roster} {agentId agentId' : String}

theorem Roster.identity_of_configured {agent : AgentConfig}
    (h : roster.configuredAgentsByID agentId = some agent) :
    agent ∈ roster.agents ∧ roster.identities agent.name = agentId ∧
      roster.agentNames agentId = agent.name := by
  have hid := List.find?_some h
  refine ⟨List.mem_of_find?_eq_some h, by simpa using hid, ?_⟩
  simp [Roster.agentNames, h]

theorem Roster.agentNames_inj (h : roster.agentNames agentId ≠ "")
    (hsame : roster.agentNames agentId = roster.agentNames agentId') : agentId = agentId' := by
  have hidentity : ∀ k, roster.agentNames k ≠ "" → roster.identities (roster.agentNames k) = k := by
    intro k hk
    cases hfind : roster.configuredAgentsByID k with
    | none => exact absurd (by simp [Roster.agentNames, hfind]) hk
    | some agent =>
      obtain ⟨-, hid, hname⟩ := Roster.identity_of_configured hfind
      rw [hname]
      exact hid
  rw [← hidentity agentId h, hsame, hidentity agentId' (hsame ▸ h)]

/-- The names an identity at a time, over the table built so far. -/
theorem get_names_fold {ready : AgentGrants} {ids : List String} (hids : ids.Nodup)
    (t : AgentGrants) (name : String) (grants : List ExecutionGrantSummary) :
    (ids.foldl (fun names agentId =>
        if roster.agentNames agentId ≠ "" then
          names.put (roster.agentNames agentId) ((ready.get agentId).getD [])
        else names) t).get name = some grants ↔
      (∃ agentId ∈ ids, roster.agentNames agentId ≠ "" ∧ roster.agentNames agentId = name ∧
        grants = grantsOf ready agentId) ∨
      ((∀ agentId ∈ ids, roster.agentNames agentId ≠ "" → roster.agentNames agentId ≠ name) ∧
        t.get name = some grants) := by
  induction ids generalizing t with
  | nil => simp
  | cons k rest ih =>
    obtain ⟨hnew, hrest⟩ := List.nodup_cons.mp hids
    rw [List.foldl_cons, ih hrest]
    by_cases hk : roster.agentNames k = ""
    · simp [hk]
    · rw [if_pos hk, Table.get_put]
      by_cases hname : name = roster.agentNames k
      · -- no later identity has this name
        subst hname
        have hlater : ∀ agentId ∈ rest, roster.agentNames agentId ≠ "" →
            roster.agentNames agentId ≠ roster.agentNames k := by
          intro agentId hmem hne hsame
          exact hnew (Roster.agentNames_inj hne hsame ▸ hmem)
        rw [if_pos rfl]
        constructor
        · rintro (⟨agentId, hmem, hne, hsame, -⟩ | ⟨-, hsame⟩)
          · exact absurd hsame (hlater agentId hmem hne)
          · exact .inl ⟨k, List.mem_cons_self, hk, rfl, (Option.some.inj hsame).symm⟩
        · rintro (⟨agentId, hmem, hne, hsame, rfl⟩ | ⟨hnone, -⟩)
          · obtain rfl := Roster.agentNames_inj hne hsame
            exact .inr ⟨hlater, rfl⟩
          · exact absurd rfl (hnone k List.mem_cons_self hk)
      · rw [if_neg hname]
        simp [Ne.symm hname]

/-- **The grants under a name** are those of its identity. -/
theorem get_readyNames {ready : AgentGrants} {name : String}
    {grants : List ExecutionGrantSummary} :
    (readyNames roster ready).get name = some grants ↔
      ∃ agentId, (ready.get agentId).isSome ∧ roster.agentNames agentId ≠ "" ∧
        roster.agentNames agentId = name ∧ grants = grantsOf ready agentId := by
  unfold readyNames
  rw [get_names_fold ready.nodup_keys]
  simp [Table.mem_keys]

end Names

/-! ### The connection's check -/

section Check

variable {B : Bridge} {roster : Roster} {deviceId name : String}
  {grants : List ExecutionGrantSummary}

/-- What `validatePreparedRuns` asks of one grant. -/
structure Accepted (deviceId : String) (s : ExecutionGrantSummary) : Prop where
  agent : s.agentId ≠ ""
  device : s.deviceId = deviceId
  current : s.revokedAt = none
  ready : (s.runtimeReady || s.integrationReady) = true

theorem validateGrants_iff {seen : List String} : validateGrants deviceId seen grants = .ok () ↔
    (∀ s ∈ grants, Accepted deviceId s ∧ s.grant.grantId ∉ seen) ∧
      (grants.map (·.grant.grantId)).Nodup := by
  induction grants generalizing seen with
  | nil => simp [validateGrants]
  | cons s rest ih =>
    unfold validateGrants
    rw [List.forall_mem_cons, List.map_cons, List.nodup_cons]
    constructor
    · intro h
      obtain ⟨⟨hagent, hdevice, hseen, hcurrent, hready⟩, h⟩ := Except.of_require h
      obtain ⟨hrest, hnodup⟩ := ih.mp h
      refine ⟨⟨⟨⟨hagent, hdevice, hcurrent, hready⟩, hseen⟩, fun s' hmem => ?_⟩, ?_, hnodup⟩
      · obtain ⟨haccepted, hnew⟩ := hrest s' hmem
        exact ⟨haccepted, fun hold => hnew (List.mem_cons_of_mem _ hold)⟩
      · intro hagain
        obtain ⟨s', hmem, hsame⟩ := List.mem_map.mp hagain
        exact (hrest s' hmem).2 (hsame ▸ List.mem_cons_self)
    · rintro ⟨⟨⟨haccepted, hseen⟩, hrest⟩, hfirst, hnodup⟩
      rw [Except.require_bind ⟨haccepted.agent, haccepted.device, hseen, haccepted.current,
        haccepted.ready⟩]
      refine ih.mpr ⟨fun s' hmem => ⟨(hrest s' hmem).1, ?_⟩, hnodup⟩
      rw [List.mem_cons, not_or]
      exact ⟨fun hsame => hfirst (hsame ▸ List.mem_map_of_mem hmem), (hrest s' hmem).2⟩

/-- **An Agent's grants pass** when there are some, not too many, each is accepted and fit to be
sent, and no two are the same. -/
theorem validateGrantSet_iff : validateGrantSet B roster deviceId name grants = .ok () ↔
    name ∈ roster.agents.map (·.name) ∧ grants ≠ [] ∧ grants.length ≤ 64 ∧
      (∀ s ∈ grants, Accepted deviceId s) ∧ (grants.map (·.grant.grantId)).Nodup ∧
      ∀ s ∈ grants, B.canonical (.grantSummary s) = true ∧ s.schema B = true := by
  unfold validateGrantSet governedAgentCapability
  constructor
  · intro h
    obtain ⟨hname, h⟩ := Except.of_require h
    obtain ⟨⟨hsome, hbound⟩, h⟩ := Except.of_require h
    obtain ⟨_, hvalid, h⟩ := Except.of_bind h
    rw [Except.require_eq_ok] at h
    obtain ⟨hall, hnodup⟩ := validateGrants_iff.mp hvalid
    refine ⟨hname.resolve_left hsome, hsome, hbound, fun s hs => (hall s hs).1, hnodup, ?_⟩
    simpa using h
  · rintro ⟨hname, hsome, hbound, hall, hnodup, hfit⟩
    rw [Except.require_bind (.inr hname), Except.require_bind ⟨hsome, hbound⟩,
      Except.bind_of_ok (validateGrants_iff.mpr ⟨fun s hs => ⟨hall s hs, by simp⟩, hnodup⟩)]
    rw [Except.require_eq_ok]
    simpa using hfit

/-- The check of a whole preparation is that of each Agent that has grants. -/
theorem validatePreparedRuns_iff {ready : AgentGrants} :
    validatePreparedRuns B roster deviceId (readyNames roster ready) = .ok () ↔
      ∀ agentId, (ready.get agentId).isSome → roster.agentNames agentId ≠ "" →
        validateGrantSet B roster deviceId (roster.agentNames agentId) (grantsOf ready agentId) =
          .ok () := by
  unfold validatePreparedRuns
  rw [Except.forM_iff]
  constructor
  · intro h agentId hsome hname
    have hget := get_readyNames.mpr ⟨agentId, hsome, hname, rfl, rfl⟩
    have hkey := h (roster.agentNames agentId) (Table.mem_keys.mpr (by rw [hget]; rfl))
    rwa [hget] at hkey
  · intro h name hkey
    obtain ⟨grants, hget⟩ := Option.isSome_iff_exists.mp (Table.mem_keys.mp hkey)
    obtain ⟨agentId, hsome, hname, rfl, rfl⟩ := get_readyNames.mp hget
    rw [hget]
    exact h agentId hsome hname

end Check

end Selected

end AgentRoom.Consent
