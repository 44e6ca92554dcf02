import AgentRoom.Consent.Ready
import AgentRoom.Lib.System

/-!
# Consent that can be published

The stores under any sequence of owner commands that succeed, at any times and under any answers
of the host. Every store can be read in every state reached, so a selection fails only where an
Agent has more usable grants than a Bridge publishes, and the connection refuses a selection only
where a usable Runtime grant has an integration target.
-/

namespace AgentRoom.Consent

open Plan (IntegrationTarget)

/-! ## The system -/

/-- **Local consent.** -/
def consent (B : Bridge) : System Stores (OwnerCommand × Time) where
  init s := s = Stores.empty
  step call s s' := call.1.run B s call.2 = .ok s'

/-- Every store can be read, and has no more records than its bound. -/
structure StoresInv (B : Bridge) (s : Stores) : Prop where
  bindings : Registry.Bounded (bindingReader B) 256 s.bindings
  profiles : Registry.Bounded (profileReader B) maxProfiles s.profiles
  verifiers : Registry.Bounded (verifierReader B) maxProfiles s.verifiers
  grants : Registry.Bounded (grantReader B) 256 s.grants

section Stores

variable {B : Bridge} {s s' : Stores}

theorem storesInv_empty : StoresInv B Stores.empty :=
  ⟨Registry.bounded_empty _, Registry.bounded_empty _, Registry.bounded_empty _,
    Registry.bounded_empty _⟩

theorem StoresInv.run {command : OwnerCommand} {now : Time} (hinv : StoresInv B s)
    (h : command.run B s now = .ok s') : StoresInv B s' := by
  cases command with
  | bind host input =>
    obtain ⟨⟨view, bindings⟩, hcall, h⟩ := Except.of_bind h
    cases h
    exact { hinv with bindings := Bindings.bind_bounded hinv.bindings hcall }
  | revokeBinding bindingId expectedRevision =>
    obtain ⟨⟨view, bindings⟩, hcall, h⟩ := Except.of_bind h
    cases h
    exact { hinv with bindings := Bindings.revoke_bounded hinv.bindings hcall }
  | registerCodex input probe =>
    obtain ⟨⟨view, profiles⟩, hcall, h⟩ := Except.of_bind h
    cases h
    exact { hinv with profiles := RuntimeProfiles.registerCodex_bounded hinv.profiles hcall }
  | revokeProfile profileId expectedRevision expectedDigest =>
    obtain ⟨⟨view, profiles⟩, hcall, h⟩ := Except.of_bind h
    cases h
    exact { hinv with profiles := RuntimeProfiles.revoke_bounded hinv.profiles hcall }
  | registerVerifier executableDigest spec =>
    obtain ⟨⟨view, verifiers⟩, hcall, h⟩ := Except.of_bind h
    cases h
    exact { hinv with verifiers := Verifiers.register_bounded hinv.verifiers hcall }
  | revokeVerifier profileId expectedRevision expectedDigest =>
    obtain ⟨⟨view, verifiers⟩, hcall, h⟩ := Except.of_bind h
    cases h
    exact { hinv with verifiers := Verifiers.revoke_bounded hinv.verifiers hcall }
  | issueTaskGrant host roster spec =>
    obtain ⟨⟨view, grants⟩, hcall, h⟩ := Except.of_bind h
    cases h
    obtain ⟨agent, -, hcall⟩ := Except.of_demand hcall
    obtain ⟨-, hcall⟩ := Except.of_require hcall
    exact { hinv with grants := TaskGrants.issueTaskGrant_bounded hinv.grants hcall }
  | revokeTaskGrant grantId expectedRevision expectedDigest =>
    obtain ⟨⟨view, grants⟩, hcall, h⟩ := Except.of_bind h
    cases h
    exact { hinv with grants := TaskGrants.revokeTaskGrant_bounded hinv.grants hcall }

theorem storesInv_reachable (h : (consent B).Reachable s) : StoresInv B s := by
  refine System.invariant (StoresInv B) (fun s hs => ?_) (fun call s s' hs hinv => ?_) h
  · obtain rfl : s = Stores.empty := hs
    exact storesInv_empty
  · exact hinv.run hs

end Stores

/-! ## What is published -/

/-- What the summary of a listed grant says. -/
structure Summarised (B : Bridge) (g : TaskGrantView) : Prop where
  agent : g.summary.agentId = g.spec.agentId
  device : g.summary.deviceId = B.owner.deviceId
  name : g.summary.grant.grantId = g.spec.grantId
  operations : g.summary.operations = g.spec.operations
  targets : g.summary.integrationTargets = g.spec.integrationTargets
  /-- A grant that is not revoked was checked as it is published. -/
  fit : g.summary.revokedAt = none →
    B.canonical (.grantSummary g.summary) = true ∧ g.summary.schema B = true

/-- The selection succeeds, and the connection accepts it. -/
def Publishes (B : Bridge) (host : ConsentHost) (s : Stores) (roster : Roster) (now : Time) :
    Prop :=
  ∃ ready, readyAgentGrants B host s roster now = .ok ready ∧
    validatePreparedRuns B roster B.owner.deviceId (readyNames roster ready) = .ok ()

/-- No usable Runtime grant has an integration target, and no Agent has more than 64 usable
grants. -/
structure Publishable (B : Bridge) (host : ConsentHost) (s : Stores) (roster : Roster) (now : Time)
    (views : List TaskGrantView) : Prop where
  unmixed : ∀ g ∈ views, usable B host s roster now g = true → g.spec.runtimeReady = true →
    g.spec.integrationTargets = []
  few : ∀ agentId,
    (views.countP fun g => usable B host s roster now g && g.spec.agentId = agentId) ≤ 64

section Published

variable {B : Bridge} {s : Stores} {host : ConsentHost} {roster : Roster} {now : Time}
  {views : List TaskGrantView} {g : TaskGrantView} {agentId : String}

theorem summarised_of_list (h : TaskGrants.list B s.grants = .ok views) (hg : g ∈ views) :
    Summarised B g := by
  obtain ⟨id, -, hget⟩ := Except.exists_of_mem_mapM (TaskGrants.list_ok h) hg
  obtain ⟨row, -, hview⟩ := Registry.get_eq_ok.mp hget
  obtain ⟨howner, -, hspec, -, hsummary, hrevoked⟩ := TaskGrants.of_view hview
  obtain ⟨-, hcanonical, hschema⟩ := TaskGrants.taskGrantSummary_ok hsummary
  -- a revocation changes the revision and the time of revocation only
  have hsame : ∃ revision revokedAt, g.summary = { row.1.summary B with
      grant := { (row.1.summary B).grant with revision }, revokedAt } ∧
      (revokedAt = none → g.summary = row.1.summary B) := by
    rcases hrevoked with ⟨-, hsame⟩ | ⟨r, -, hsame⟩
    · exact ⟨1, none, hsame, fun _ => hsame⟩
    · exact ⟨2, some r.revokedAt, hsame, nofun⟩
  obtain ⟨revision, revokedAt, hchanged, hcurrent⟩ := hsame
  refine ⟨?_, ?_, ?_, ?_, ?_, fun hnone => ?_⟩
  · rw [hchanged, hspec]; rfl
  · rw [hchanged, ← howner]; rfl
  · rw [hchanged, hspec]; rfl
  · rw [hchanged, hspec]; rfl
  · rw [hchanged, hspec]; rfl
  · rw [hcurrent (by rw [hchanged] at hnone; exact hnone)]
    exact ⟨hcanonical, hschema⟩

theorem nodup_of_list (h : TaskGrants.list B s.grants = .ok views) :
    (views.map (·.spec.grantId)).Nodup := by
  have hnames := Registry.list_names (fun v : TaskGrantView => v.spec.grantId)
    (TaskGrants.list_ok h) fun k r v w hview => by
      obtain ⟨-, hid, hspec, -⟩ := TaskGrants.of_view hview
      rw [hspec, hid]
  rw [hnames]
  exact Registry.nodup_ids

theorem configured_of_usable (h : usable B host s roster now g = true) :
    (∃ agent, roster.configuredAgentsByID g.spec.agentId = some agent) ∧
      g.summary.revokedAt = none ∧
      (g.spec.runtimeReady || g.spec.integrationReady) = true := by
  unfold usable at h
  split at h
  · rename_i expiresAt agent hparse hagent
    simp only [Bool.and_eq_true, Option.isNone_iff_eq_none] at h
    obtain ⟨⟨⟨⟨⟨⟨-, hcurrent⟩, -⟩, hready⟩, -⟩, -⟩, -⟩ := h
    exact ⟨⟨agent, hagent⟩, hcurrent, hready⟩
  · cases h

theorem name_of_usable (h : usable B host s roster now g = true) :
    roster.agentNames g.spec.agentId ≠ "" ∧
      roster.agentNames g.spec.agentId ∈ roster.agents.map (·.name) := by
  obtain ⟨⟨agent, hagent⟩, -, -⟩ := configured_of_usable h
  obtain ⟨hmem, -, hname⟩ := Roster.identity_of_configured hagent
  rw [hname]
  exact ⟨roster.named agent hmem, List.mem_map_of_mem hmem⟩

/-- The connection's two kinds of readiness are the selection's, but for a Runtime grant with a
target. -/
theorem ready_iff (hsummary : Summarised B g)
    (hready : (g.spec.runtimeReady || g.spec.integrationReady) = true) :
    (g.summary.runtimeReady || g.summary.integrationReady) = true ↔
      (g.spec.runtimeReady = true → g.spec.integrationTargets = []) := by
  unfold ExecutionGrantSummary.runtimeReady ExecutionGrantSummary.integrationReady
  rw [hsummary.operations, hsummary.targets]
  unfold TaskGrantSpec.integrationReady at hready
  cases hruntime : g.spec.runtimeReady with
  | true =>
    have hoperations := hruntime
    simp only [TaskGrantSpec.runtimeReady, Bool.and_eq_true, decide_eq_true_eq] at hoperations
    have hmany : g.spec.operations ≠ [.integrate] := by
      intro hone
      rw [hone] at hoperations
      simp at hoperations
    simp [hoperations, hmany]
  | false =>
    rw [hruntime, Bool.false_or, Bool.and_eq_true, decide_eq_true_eq, decide_eq_true_eq] at hready
    obtain ⟨hone, htarget⟩ := hready
    have hsome : g.spec.integrationTargets ≠ [] := by
      intro hnil
      rw [hnil] at htarget
      cases htarget
    simp [hone, hsome]

/-- The usable grants of an Agent are accepted, when they are Runtime grants without a target or
integration grants. -/
theorem accepted_of_publishable (hlist : TaskGrants.list B s.grants = .ok views)
    (hpublishable : Publishable B host s roster now views)
    (hsome : accepted (usable B host s roster now) views agentId ≠ []) {sorted}
    (hperm : sorted.Perm (accepted (usable B host s roster now) views agentId)) :
    validateGrantSet B roster B.owner.deviceId (roster.agentNames agentId) sorted = .ok () := by
  obtain ⟨first, hfirst⟩ := List.exists_mem_of_ne_nil _ hsome
  obtain ⟨g₀, -, husable₀, rfl, -⟩ := mem_accepted.mp hfirst
  refine validateGrantSet_iff.mpr ⟨(name_of_usable husable₀).2, ?_, ?_, ?_, ?_, ?_⟩
  · intro hnil
    rw [hnil] at hperm
    exact hsome hperm.symm.eq_nil
  · rw [hperm.length_eq, accepted, List.length_map, ← List.countP_eq_length_filter]
    exact hpublishable.few _
  · intro summary hmem
    obtain ⟨g, hg, husable, -, rfl⟩ := mem_accepted.mp (hperm.mem_iff.mp hmem)
    have hsummary := summarised_of_list hlist hg
    obtain ⟨⟨agent, hagent⟩, hcurrent, hready⟩ := configured_of_usable husable
    refine ⟨?_, hsummary.device, hcurrent, ?_⟩
    · rw [hsummary.agent, ← (Roster.identity_of_configured hagent).2.1]
      exact roster.identified agent (Roster.identity_of_configured hagent).1
    · exact (ready_iff hsummary hready).mpr (hpublishable.unmixed g hg husable)
  · have hids : (accepted (usable B host s roster now) views g₀.spec.agentId).map
        (·.grant.grantId) = (views.filter fun g => usable B host s roster now g &&
          g.spec.agentId = g₀.spec.agentId).map (·.spec.grantId) := by
      unfold accepted
      rw [List.map_map]
      refine List.map_congr_left fun g hg => ?_
      exact (summarised_of_list hlist (List.mem_of_mem_filter hg)).name
    rw [(hperm.map _).nodup_iff, hids]
    exact (nodup_of_list hlist).sublist (List.filter_sublist.map _)
  · intro summary hmem
    obtain ⟨g, hg, husable, -, rfl⟩ := mem_accepted.mp (hperm.mem_iff.mp hmem)
    exact (summarised_of_list hlist hg).fit (configured_of_usable husable).2.1

/-- **The selection is published exactly when it is publishable.** -/
theorem publishes_iff (h : (consent B).Reachable s) (host : ConsentHost) (roster : Roster)
    (now : Time) :
    Publishes B host s roster now ↔ (coordinates host roster = true →
      ∀ views, TaskGrants.list B s.grants = .ok views → Publishable B host s roster now views) := by
  have hinv := storesInv_reachable h
  obtain ⟨_, hbindings⟩ := Bindings.exists_list hinv.bindings
  obtain ⟨views, hviews⟩ := TaskGrants.exists_list hinv.grants
  obtain ⟨_, hprofiles⟩ := RuntimeProfiles.exists_list hinv.profiles
  obtain ⟨_, hverifiers⟩ := Verifiers.exists_list hinv.verifiers
  -- every store lists, so only the selection can refuse
  have hselect : readyAgentGrants B host s roster now =
      if coordinates host roster then
        (selectReady (usable B host s roster now) .empty views >>= fun ready => .ok
          (ready.mapRows (·.insertionSort fun a b => a.grant.grantId ≤ b.grant.grantId)))
      else .ok .empty := by
    unfold readyAgentGrants
    rw [Except.bind_of_ok hbindings, Except.bind_of_ok hviews, Except.bind_of_ok hprofiles,
      Except.bind_of_ok hverifiers]
    rfl
  have hempty : ∀ agentId, grantsOf Table.empty agentId = [] := fun _ => rfl
  unfold Publishes
  rw [hselect]
  by_cases hcoordinates : coordinates host roster = true
  swap
  · -- nothing is selected, and nothing is refused
    rw [if_neg hcoordinates]
    refine ⟨fun _ hc => absurd hc hcoordinates, fun _ => ⟨_, rfl, ?_⟩⟩
    exact validatePreparedRuns_iff.mpr fun _ h => absurd h Bool.false_ne_true
  rw [if_pos hcoordinates]
  constructor
  · rintro ⟨published, hready, hvalid⟩ - views' hviews'
    obtain rfl : views = views' := by rw [hviews] at hviews'; cases hviews'; rfl
    obtain ⟨ready, hselected, hsorted⟩ := Except.of_bind hready
    cases hsorted
    obtain ⟨hgrants, -, hwithin⟩ := selectReady_ok hselected
    refine ⟨fun g hg husable hruntime => ?_, fun agentId => ?_⟩
    · have hmem : g.summary ∈ grantsOf ready g.spec.agentId := by
        rw [hgrants, hempty, List.nil_append]
        exact mem_accepted.mpr ⟨g, hg, husable, rfl, rfl⟩
      have hsome : (ready.get g.spec.agentId).isSome := by
        by_contra hnone
        rw [Bool.not_eq_true, Option.isSome_eq_false_iff, Option.isNone_iff_eq_none] at hnone
        simp [grantsOf, hnone] at hmem
      -- the connection's check of the Agent's set has a check of each grant
      have hset := validatePreparedRuns_iff.mp hvalid g.spec.agentId
        (by rw [Table.get_mapRows, Option.isSome_map]; exact hsome) (name_of_usable husable).1
      obtain ⟨-, -, -, haccepted, -⟩ := validateGrantSet_iff.mp hset
      have hgrant := haccepted g.summary (by
        unfold grantsOf at hmem ⊢
        rw [Table.get_mapRows]
        cases hget : ready.get g.spec.agentId with
        | none => simp [hget] at hmem
        | some grants =>
          rw [hget] at hmem
          exact (List.mem_insertionSort _).mpr hmem)
      exact (ready_iff (summarised_of_list hviews hg) (configured_of_usable husable).2.2).mp
        hgrant.ready hruntime
    · by_cases hnil : accepted (usable B host s roster now) views agentId = []
      · rw [List.countP_eq_length_filter, ← List.length_map (f := (·.summary))]
        exact (congrArg List.length hnil).trans_le (Nat.zero_le _)
      · have hbound := hwithin agentId hnil
        rw [hgrants, hempty, List.nil_append, accepted, List.length_map,
          ← List.countP_eq_length_filter] at hbound
        exact hbound
  · intro hpublishable
    have hpub := hpublishable hcoordinates views hviews
    -- no Agent has more than the selection takes
    have hfew : ∀ agentId, (grantsOf .empty agentId ++
        accepted (usable B host s roster now) views agentId).length ≤ 64 := by
      intro agentId
      rw [hempty, List.nil_append, accepted, List.length_map, ← List.countP_eq_length_filter]
      exact hpub.few agentId
    obtain ⟨ready, hready⟩ := exists_selectReady hfew
    obtain ⟨hgrants, hpresent, -⟩ := selectReady_ok hready
    refine ⟨_, by rw [Except.bind_of_ok hready], validatePreparedRuns_iff.mpr ?_⟩
    intro agentId hsome hname
    rw [Table.get_mapRows, Option.isSome_map] at hsome
    refine accepted_of_publishable hviews hpub ((hpresent agentId hsome).resolve_left
      Bool.false_ne_true) ?_
    obtain ⟨grants, hget⟩ := Option.isSome_iff_exists.mp hsome
    have hsame : grants = accepted (usable B host s roster now) views agentId := by
      have hall := hgrants agentId
      rw [hempty, List.nil_append] at hall
      rw [← hall, grantsOf, hget]
      rfl
    rw [grantsOf, Table.get_mapRows, hget, ← hsame]
    exact List.perm_insertionSort _ _

end Published

end AgentRoom.Consent
