import AgentRoom.Consent.Records

/-!
# Runtime and verifier profiles

The two profile stores. A Runtime profile binds an Agent's local policy to a boundary that a
probe has proved, a verifier profile binds a command to its executable. The probe and the digest
of an executable are host answers.
-/

namespace AgentRoom.Consent

open Except (expect require)
open Plan (digestText markedId stableKey)

variable (B : Bridge)

def profilePattern : String → Bool := markedId "profile_" 128
def agentPattern : String → Bool := markedId "agent_" 128

/-- `maxProfiles`, of both stores. -/
def maxProfiles : Nat := 64

/-! ## Runtime profiles -/

/-- `validSpec`. -/
def RuntimeProfileSpec.valid (spec : RuntimeProfileSpec) : Bool :=
  profilePattern spec.profileId && spec.revision = 1 && agentPattern spec.agentId &&
    spec.runtimeKind = "codex" && digestText spec.configurationDigest &&
    stableKey spec.permissionProfile

/-- `validBoundary`. -/
def ProfileBoundary.valid (boundary : ProfileBoundary) : Bool :=
  digestText boundary.executableDigest && digestText boundary.permissionProfileDigest &&
    boundary.filesystemBoundary = "workspace_write_outside_deny" &&
    boundary.networkBoundary = "ipv4_loopback_connect_deny" &&
    (boundary.platform = "darwin/amd64" || boundary.platform = "darwin/arm64")

def codexEnvironmentNames : List String :=
  ["HOME", "PATH", "CODEX_HOME", "LANG", "LC_ALL", "LC_CTYPE", "TERM"]

def codexConfigurationDigest (agent : AgentConfig) (stableAgentId permissionProfile : String) :
    Except ConsentError String := do
  require (agentPattern stableAgentId = true ∧ agent.runtimeKind = "codex" ∧
    agent.adapter = "codex" ∧ agent.presetVersion = 5 ∧ agent.sandbox = "workspace-write" ∧
    (agent.command.head?.any fun c => B.unicode.trimSpace c.toList ≠ []) = true ∧
    stableKey permissionProfile = true) .invalid
  require (agent.envAllowlist ⊆ codexEnvironmentNames ∧ agent.envAllowlist.Nodup) .invalid
  pure (B.configurationDigest agent stableAgentId permissionProfile)

def RuntimeProfileRecord.view (record : RuntimeProfileRecord) : RuntimeProfileView where
  spec := record.spec
  digest := B.digest (.runtimeProfile record)
  boundary := record.boundary
  registeredAt := record.registeredAt
  revokedAt := none

/-- `get`. -/
def profileReader :
    Registry.Reader String RuntimeProfileRecord ProfileRevocation RuntimeProfileView
      ConsentError where
  absent := .notExist
  view id record revoked := do
    require (profilePattern id = true) .invalid
    require (B.reads (.runtimeProfile record) = true) .changed
    require (record.owner = B.owner ∧ record.spec.profileId = id ∧ record.spec.valid = true ∧
      record.boundary.valid = true) .changed
    match revoked with
    | none => pure (record.view B)
    | some r =>
      require (B.reads (.profileRevocation r) = true) .changed
      require (r.profileId = id ∧ r.digest = B.digest (.runtimeProfile record) ∧
        record.registeredAt ≤ r.revokedAt) .changed
      pure { record.view B with revokedAt := some r.revokedAt }

structure CodexRegistration where
  spec : RuntimeProfileSpec
  agent : AgentConfig

/-- `CodexLocalBoundaryProbeResult`. -/
structure ProbeResult where
  boundary : ProfileBoundary
  permissionProfile : String
  probedAt : Time

namespace RuntimeProfiles

def list (t : RuntimeProfiles) : Except ConsentError (List RuntimeProfileView) := do
  require (Registry.files t ≤ maxProfiles * 2 + 16) .changed
  let views ← Registry.list (profileReader B) t
  require (views.length ≤ maxProfiles) .changed
  pure views

/-- `RegisterCodex`. The store is read before and after the probe, under the owner's lock: it is
the same both times. -/
def registerCodex (t : RuntimeProfiles) (input : CodexRegistration)
    (probe : Except ConsentError ProbeResult) (now : Time) :
    Except ConsentError (RuntimeProfileView × RuntimeProfiles) := do
  require (input.spec.valid = true) .invalid
  let configurationDigest ←
    codexConfigurationDigest B input.agent input.spec.agentId input.spec.permissionProfile
  require (configurationDigest = input.spec.configurationDigest) .invalid
  let existing ← Registry.lookup (profileReader B) t input.spec.profileId
  require (existing.all (·.view.revokedAt.isNone) = true) .profileRevoked
  require (existing.all (·.record.spec = input.spec) = true) .conflict
  let result ← probe
  require (result.boundary.valid = true ∧
    result.permissionProfile = input.spec.permissionProfile ∧ result.probedAt = now) .profileDenied
  match existing with
  | some found =>
    require (found.record.boundary = result.boundary) .conflict
    pure (found.view, t)
  | none =>
    let views ← list B t
    require (views.length < maxProfiles) .invalid
    let record : RuntimeProfileRecord :=
      { owner := B.owner, spec := input.spec, boundary := result.boundary, registeredAt := now }
    require (B.bytes (.runtimeProfile record) ≤ recordLimit) .invalid
    Registry.write (profileReader B) t input.spec.profileId record none

def revoke (t : RuntimeProfiles) (profileId : String) (expectedRevision : Nat)
    (expectedDigest : String) (now : Time) :
    Except ConsentError (RuntimeProfileView × RuntimeProfiles) := do
  require (expectedRevision = 1 ∧ digestText expectedDigest = true) .conflict
  let found ← Registry.find (profileReader B) t profileId
  require (found.view.digest = expectedDigest) .conflict
  if found.view.revokedAt.isSome then pure (found.view, t)
  else do
    require (found.record.registeredAt ≤ now) .invalid
    Registry.write (profileReader B) t profileId found.record
      (some ⟨profileId, expectedDigest, now⟩)

def resolveRuntime (t : RuntimeProfiles) (reference : ProfilePin) (stableAgentId : String)
    (agent : AgentConfig) : Except ConsentError RuntimeProfileView := do
  let view ← Registry.get (profileReader B) t reference.profileId
  require (view.revokedAt = none) .profileRevoked
  let configurationDigest ← expect
    (codexConfigurationDigest B agent stableAgentId view.spec.permissionProfile)
    ConsentError.profileDenied
  require (reference.revision = 1 ∧ reference.digest = view.digest ∧
    view.spec.agentId = stableAgentId ∧ view.spec.configurationDigest = configurationDigest ∧
    view.spec.runtimeKind = "codex") .profileDenied
  pure view

section Facts

variable {B} {t t' : RuntimeProfiles} {view : RuntimeProfileView} {now : Time}

theorem list_length {views : List RuntimeProfileView} (h : list B t = .ok views) :
    views.length = t.rows.length := by
  obtain ⟨-, h⟩ := Except.of_require h
  obtain ⟨found, hfound, h⟩ := Except.of_bind h
  obtain ⟨-, h⟩ := Except.of_require h
  cases h
  exact Registry.length_list hfound

theorem exists_list (hkept : Registry.Bounded (profileReader B) maxProfiles t) :
    ∃ views, list B t = .ok views := by
  obtain ⟨views, hviews⟩ := Registry.exists_list hkept.readable
  have hbound := hkept.bounded
  have hfiles : Registry.files t ≤ maxProfiles * 2 + 16 :=
    (Registry.files_le t).trans (by omega)
  refine ⟨views, ?_⟩
  unfold list
  rw [Except.require_bind hfiles, Except.bind_of_ok hviews,
    Except.require_bind (by rw [Registry.length_list hviews]; exact hbound)]
  rfl

theorem registerCodex_bounded {input : CodexRegistration} {probe : Except ConsentError ProbeResult}
    (hkept : Registry.Bounded (profileReader B) maxProfiles t)
    (h : registerCodex B t input probe now = .ok (view, t')) :
    Registry.Bounded (profileReader B) maxProfiles t' := by
  obtain ⟨-, h⟩ := Except.of_require h
  obtain ⟨_, -, h⟩ := Except.of_bind h
  obtain ⟨-, h⟩ := Except.of_require h
  obtain ⟨existing, hexisting, h⟩ := Except.of_bind h
  obtain ⟨-, h⟩ := Except.of_require h
  obtain ⟨-, h⟩ := Except.of_require h
  obtain ⟨result, -, h⟩ := Except.of_bind h
  obtain ⟨-, h⟩ := Except.of_require h
  rcases Registry.lookup_ok hexisting with ⟨rfl, hfree⟩ | ⟨row, previous, -, -, rfl⟩
  · obtain ⟨views, hviews, h⟩ := Except.of_bind h
    obtain ⟨hroom, h⟩ := Except.of_require h
    obtain ⟨-, h⟩ := Except.of_require h
    exact hkept.new (list_length hviews ▸ hroom) hfree h
  · obtain ⟨-, h⟩ := Except.of_require h
    cases h
    exact hkept

theorem revoke_bounded {profileId expectedDigest : String} {expectedRevision : Nat}
    (hkept : Registry.Bounded (profileReader B) maxProfiles t)
    (h : revoke B t profileId expectedRevision expectedDigest now = .ok (view, t')) :
    Registry.Bounded (profileReader B) maxProfiles t' := by
  obtain ⟨-, h⟩ := Except.of_require h
  obtain ⟨found, hfound, h⟩ := Except.of_bind h
  obtain ⟨-, h⟩ := Except.of_require h
  obtain ⟨v, hrow, -⟩ := Registry.find_ok hfound
  split at h
  · cases h
    exact hkept
  · obtain ⟨-, h⟩ := Except.of_require h
    exact hkept.again hrow h

end Facts

end RuntimeProfiles

/-! ## Verifier profiles -/

def safeEnvironmentNames : List String :=
  ["PATH", "LANG", "LC_ALL", "LC_CTYPE", "SystemRoot", "WINDIR"]

def verifierArgument (argument : String) : Bool :=
  argument ≠ "" && argument.utf8ByteSize ≤ 4096 && argument.toList.all (·.toNat ≠ 0)

/-- `normalizeSpec`. -/
def VerifierSpec.normalize (spec : VerifierSpec) : Except ConsentError VerifierSpec := do
  require (profilePattern spec.profileId = true ∧ spec.revision = 1 ∧ spec.command.length ≤ 32 ∧
    spec.command.head?.any B.cleanPath = true ∧ 100 ≤ spec.timeoutMilliseconds ∧
    spec.timeoutMilliseconds ≤ 30 * 60 * 1000 ∧ 1024 ≤ spec.outputLimitBytes ∧
    spec.outputLimitBytes ≤ 2 ^ 20 ∧ spec.environmentNames.length ≤ 16) .invalid
  require (spec.command.all verifierArgument = true) .invalid
  require (spec.environmentNames ⊆ safeEnvironmentNames ∧ spec.environmentNames.Nodup) .invalid
  pure { spec with environmentNames := spec.environmentNames.insertionSort (· ≤ ·) }

def VerifierRecord.view (record : VerifierRecord) : VerifierView where
  spec := record.spec
  digest := B.digest (.verifier record)
  executableDigest := record.executableDigest
  registeredAt := record.registeredAt
  revokedAt := none

/-- `get`. -/
def verifierReader :
    Registry.Reader String VerifierRecord ProfileRevocation VerifierView ConsentError where
  absent := .notExist
  view id record revoked := do
    require (profilePattern id = true) .invalid
    require (B.reads (.verifier record) = true) .changed
    let normalized ← expect (record.spec.normalize B) ConsentError.changed
    require (record.owner = B.owner ∧ record.spec.profileId = id ∧
      normalized = record.spec) .changed
    match revoked with
    | none => pure (record.view B)
    | some r =>
      require (B.bytes (.profileRevocation r) ≤ recordLimit ∧ r.profileId = id ∧
        r.digest = B.digest (.verifier record)) .changed
      pure { record.view B with revokedAt := some r.revokedAt }

namespace Verifiers

def list (t : Verifiers) : Except ConsentError (List VerifierView) :=
  Registry.list (verifierReader B) t

def register (executableDigest : String → Except ConsentError String) (t : Verifiers)
    (spec : VerifierSpec) (now : Time) : Except ConsentError (VerifierView × Verifiers) := do
  let normalized ← spec.normalize B
  let digest ← executableDigest (normalized.command.headD "")
  let record : VerifierRecord :=
    { owner := B.owner, spec := normalized, executableDigest := digest, registeredAt := now }
  let existing ← Registry.lookup (verifierReader B) t normalized.profileId
  match existing with
  | some found =>
    require (found.view.revokedAt = none) .profileRevoked
    require ({ record with registeredAt := found.record.registeredAt } = found.record) .conflict
    pure (found.view, t)
  | none =>
    let views ← list B t
    require (views.length < maxProfiles) .invalid
    require (B.bytes (.verifier record) ≤ recordLimit) .invalid
    Registry.write (verifierReader B) t normalized.profileId record none

def revoke (t : Verifiers) (profileId : String) (expectedRevision : Nat) (expectedDigest : String)
    (now : Time) : Except ConsentError (VerifierView × Verifiers) := do
  let found ← Registry.find (verifierReader B) t profileId
  require (expectedRevision = 1 ∧ expectedDigest = found.view.digest ∧
    digestText expectedDigest = true) .conflict
  if found.view.revokedAt.isSome then pure (found.view, t)
  else
    Registry.write (verifierReader B) t profileId found.record
      (some ⟨profileId, expectedDigest, now⟩)

def resolve (executableDigest : String → Except ConsentError String) (t : Verifiers)
    (reference : ProfilePin) : Except ConsentError VerifierRecord := do
  let found ← Registry.find (verifierReader B) t reference.profileId
  require (found.view.revokedAt = none) .profileRevoked
  require (reference.revision = 1 ∧ reference.digest = found.view.digest) .conflict
  let current ← expect (executableDigest (found.record.spec.command.headD ""))
    ConsentError.changed
  require (current = found.record.executableDigest) .changed
  pure found.record

section Facts

variable {B} {t t' : Verifiers} {view : VerifierView} {now : Time}
  {executableDigest : String → Except ConsentError String}

theorem exists_list (hkept : Registry.Bounded (verifierReader B) maxProfiles t) :
    ∃ views, list B t = .ok views :=
  Registry.exists_list hkept.readable

theorem register_bounded {spec : VerifierSpec}
    (hkept : Registry.Bounded (verifierReader B) maxProfiles t)
    (h : register B executableDigest t spec now = .ok (view, t')) :
    Registry.Bounded (verifierReader B) maxProfiles t' := by
  obtain ⟨normalized, -, h⟩ := Except.of_bind h
  obtain ⟨_, -, h⟩ := Except.of_bind h
  obtain ⟨existing, hexisting, h⟩ := Except.of_bind h
  rcases Registry.lookup_ok hexisting with ⟨rfl, hfree⟩ | ⟨row, previous, -, -, rfl⟩
  · obtain ⟨views, hviews, h⟩ := Except.of_bind h
    obtain ⟨hroom, h⟩ := Except.of_require h
    obtain ⟨-, h⟩ := Except.of_require h
    exact hkept.new (Registry.length_list hviews ▸ hroom) hfree h
  · obtain ⟨-, h⟩ := Except.of_require h
    obtain ⟨-, h⟩ := Except.of_require h
    cases h
    exact hkept

theorem revoke_bounded {profileId expectedDigest : String} {expectedRevision : Nat}
    (hkept : Registry.Bounded (verifierReader B) maxProfiles t)
    (h : revoke B t profileId expectedRevision expectedDigest now = .ok (view, t')) :
    Registry.Bounded (verifierReader B) maxProfiles t' := by
  obtain ⟨found, hfound, h⟩ := Except.of_bind h
  obtain ⟨-, h⟩ := Except.of_require h
  obtain ⟨v, hrow, -⟩ := Registry.find_ok hfound
  split at h
  · cases h
    exact hkept
  · exact hkept.again hrow h

end Facts

end Verifiers

end AgentRoom.Consent
