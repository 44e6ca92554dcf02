import AgentRoom.Consent.ReadyLaw
import AgentRoom.Workspace.Leases

/-!
# The check of a manifest against local consent

`CheckTaskGrant`: what a Bridge asks of a governed manifest before it prepares a workspace for it,
captures from it or verifies it. The consent pins more than a summary of it shows: the Room, the
Task and its revisions, the plan's revision and digest, and the base commit.
-/

namespace AgentRoom.Consent

open Except (require)
open Execution (Manifest)
open Plan (ScopePolicy VerificationProfile)
open Repository (prefixContains)
open Workspace (Platform)

/-! ## Scopes -/

/-- The denials of a grant that a requested path meets are requested as denials too. -/
def keepsDenials (request grant : Repository.ScopePolicy) (allowed : Repository.Path) : Bool :=
  grant.forbiddenPaths.all fun denied =>
    if prefixContains denied allowed then
      request.forbiddenPaths.any fun parent => prefixContains parent allowed
    else if prefixContains allowed denied then
      request.forbiddenPaths.any fun parent => prefixContains parent denied
    else true

/-- The comparison of `scopeWithinGrant`, of two frozen policies. -/
def scopeWithin (request grant : Repository.ScopePolicy) : Bool :=
  !(grant.requirePreventivePathEnforcement && !request.requirePreventivePathEnforcement) &&
    (request.access = .readOnly || grant.access = .isolatedWrite &&
      request.allowedPaths.all fun allowed =>
        grant.allowedPaths.any (fun parent => prefixContains parent allowed) &&
          keepsDenials request grant allowed)

def scopeWithinGrant (u : Repository.Unicode) (request grant : ScopePolicy) : Bool :=
  match Repository.freezeScopePolicy u (pathPolicy request),
      Repository.freezeScopePolicy u (pathPolicy grant) with
  | .ok request, .ok grant => scopeWithin request grant
  | _, _ => false

theorem prefixContains_self (path : Repository.Path) : prefixContains path path = true := by
  simp [prefixContains]

/-- **A scope is within itself.** -/
theorem scopeWithin_self (policy : Repository.ScopePolicy) : scopeWithin policy policy = true := by
  unfold scopeWithin
  rw [Bool.and_eq_true]
  refine ⟨by simp, ?_⟩
  cases haccess : policy.access with
  | readOnly => rfl
  | isolatedWrite =>
    simp only [decide_true, Bool.true_and, Bool.or_eq_true, List.all_eq_true, Bool.and_eq_true,
      List.any_eq_true]
    refine .inr fun allowed hallowed => ⟨⟨allowed, hallowed, prefixContains_self allowed⟩, ?_⟩
    refine List.all_eq_true.mpr fun denied hdenied => ?_
    split
    · rename_i hcovers
      exact List.any_eq_true.mpr ⟨denied, hdenied, hcovers⟩
    · split
      · exact List.any_eq_true.mpr ⟨denied, hdenied, prefixContains_self denied⟩
      · rfl

theorem scopeWithinGrant_self {u : Repository.Unicode} {policy : ScopePolicy}
    {frozen : Repository.ScopePolicy}
    (h : Repository.freezeScopePolicy u (pathPolicy policy) = .ok frozen) :
    scopeWithinGrant u policy policy = true := by
  unfold scopeWithinGrant
  rw [h]
  exact scopeWithin_self frozen

/-! ## The check -/

def profilePin (profile : VerificationProfile) : ProfilePin :=
  ⟨profile.profileId, profile.revision, profile.digest⟩

/-- The grant's own fields that a manifest repeats, and that its published summary shows. -/
def sharedPins (owner : Owner) (spec : TaskGrantSpec) (manifest : Manifest) : Bool :=
  manifest.repository.grantId = spec.grantId && manifest.repository.grantRevision = 1 &&
    manifest.repository.bindingId = spec.bindingId &&
    manifest.repository.repositoryId = spec.repositoryId &&
    manifest.repository.runtimeProfileId = spec.runtimeProfile.profileId &&
    manifest.repository.runtimeProfileDigest = spec.runtimeProfile.digest &&
    manifest.scope.deviceId = owner.deviceId && manifest.scope.agentId = spec.agentId &&
    manifest.scope.planId = spec.planId && manifest.scope.nodeKey = spec.nodeKey

/-- **What consent pins and no summary shows.** -/
def hiddenPins (spec : TaskGrantSpec) (manifest : Manifest) : Bool :=
  manifest.repository.baseCommit = spec.baseCommit &&
    manifest.scope.roomId = spec.roomId && manifest.scope.taskId = spec.taskId &&
    manifest.scope.definitionRevision = spec.definitionRevision &&
    manifest.scope.criteriaRevision = spec.criteriaRevision &&
    manifest.scope.planRevision = spec.planRevision &&
    manifest.scope.planDigest = spec.planDigest

/-- The documents of a manifest: its schema, its own digest and the digest of its inputs. -/
def manifestSound (P : Platform) (manifest : Manifest) : Prop :=
  P.conforms manifest = true ∧
    P.digest (.manifest { manifest with manifestDigest := "" }) = manifest.manifestDigest ∧
    P.digest (.inputs manifest.inputs) = manifest.inputDigest

instance (P : Platform) (manifest : Manifest) : Decidable (manifestSound P manifest) := by
  unfold manifestSound
  infer_instance

variable (P : Platform) (B : Bridge)

/-- The times of the check. A text that is no time counts as long past. -/
def inTime (record : TaskGrantRecord) (manifest : Manifest) (now : Time) : Bool :=
  match B.parseTime record.spec.expiresAt, B.parseTime manifest.deadline with
  | some expires, some deadline =>
    record.issuedAt ≤ now && now < expires && now < deadline && deadline ≤ expires
  | _, _ => false

/-- **`CheckTaskGrant`.** -/
def checkTaskGrant (host : BindingHost) (s : Stores) (manifest : Manifest) (operation : Operation)
    (now : Time) : Except ConsentError Unit := do
  require (manifestSound P manifest) .invalid
  let found ← Registry.find (grantReader B) s.grants manifest.grant.grantId
  require (found.view.summary.revokedAt = none) .grantRevoked
  require (inTime B found.record manifest now = true) .grantExpired
  require (operation = .prepare ∨ operation = .capture ∨ operation = .verify) .grantDenied
  require (operation ∈ found.record.spec.operations ∧
    manifest.grant = found.view.summary.grant ∧
    sharedPins B.owner found.record.spec manifest = true ∧
    hiddenPins found.record.spec manifest = true) .grantDenied
  require (scopeWithinGrant B.unicode manifest.scopePolicy found.record.spec.scopePolicy = true)
    .grantDenied
  require ((manifest.verificationProfiles.map (·.profileId)).Nodup ∧
    ∀ profile ∈ manifest.verificationProfiles,
      profilePin profile ∈ found.record.spec.verificationProfiles) .grantDenied
  checkGrantBinding B host s.bindings found.record.spec

variable {P B} {host : BindingHost} {s : Stores} {manifest : Manifest} {operation : Operation}
  {now : Time}

/-- **What the check asks.** -/
theorem checkTaskGrant_iff : checkTaskGrant P B host s manifest operation now = .ok () ↔
    manifestSound P manifest ∧
    ∃ found, Registry.find (grantReader B) s.grants manifest.grant.grantId = .ok found ∧
      found.view.summary.revokedAt = none ∧ inTime B found.record manifest now = true ∧
      (operation = .prepare ∨ operation = .capture ∨ operation = .verify) ∧
      (operation ∈ found.record.spec.operations ∧ manifest.grant = found.view.summary.grant ∧
        sharedPins B.owner found.record.spec manifest = true ∧
        hiddenPins found.record.spec manifest = true) ∧
      scopeWithinGrant B.unicode manifest.scopePolicy found.record.spec.scopePolicy = true ∧
      ((manifest.verificationProfiles.map (·.profileId)).Nodup ∧
        ∀ profile ∈ manifest.verificationProfiles,
          profilePin profile ∈ found.record.spec.verificationProfiles) ∧
      checkGrantBinding B host s.bindings found.record.spec = .ok () := by
  constructor
  · intro h
    obtain ⟨hsound, h⟩ := Except.of_require h
    obtain ⟨found, hfound, h⟩ := Except.of_bind h
    obtain ⟨hcurrent, h⟩ := Except.of_require h
    obtain ⟨htime, h⟩ := Except.of_require h
    obtain ⟨hkind, h⟩ := Except.of_require h
    obtain ⟨hpins, h⟩ := Except.of_require h
    obtain ⟨hscope, h⟩ := Except.of_require h
    obtain ⟨hprofiles, h⟩ := Except.of_require h
    exact ⟨hsound, found, hfound, hcurrent, htime, hkind, hpins, hscope, hprofiles, h⟩
  · rintro ⟨hsound, found, hfound, hcurrent, htime, hkind, hpins, hscope, hprofiles, hbinding⟩
    unfold checkTaskGrant
    rw [Except.require_bind hsound, Except.bind_of_ok hfound, Except.require_bind hcurrent,
      Except.require_bind htime, Except.require_bind hkind, Except.require_bind hpins,
      Except.require_bind hscope, Except.require_bind hprofiles]
    exact hbinding

end AgentRoom.Consent
