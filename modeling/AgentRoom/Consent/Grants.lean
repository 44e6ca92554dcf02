import AgentRoom.Consent.Bindings

/-!
# Task grants

The consent half of `BindingStore`: what the owner issues for one Task, normalized and kept as it
was issued, what a Bridge publishes of it, and the check of a governed manifest against it.
-/

namespace AgentRoom.Consent

open Except (expect require)
open Execution (Manifest ManifestGrant)
open Plan (IntegrationTarget ScopePolicy digestText gitObjectId itemsWithin markedId
  revisionWithin stableKey)

variable (B : Bridge)

def grantPattern : String → Bool := markedId "grant_" 128

/-! ## Scope policies -/

/-- A policy with its paths spelled out. -/
def pathPolicy (policy : ScopePolicy) : Repository.ScopePolicy where
  access := match policy.access with
    | .readOnly => .readOnly
    | .isolatedWrite => .isolatedWrite
  allowedPaths := policy.allowedPaths.map String.toList
  forbiddenPaths := policy.forbiddenPaths.map String.toList
  requirePreventivePathEnforcement := policy.requirePreventivePathEnforcement

/-- A policy with its paths as texts. -/
def textPolicy (policy : Repository.ScopePolicy) : ScopePolicy where
  access := match policy.access with
    | .readOnly => .readOnly
    | .isolatedWrite => .isolatedWrite
  allowedPaths := policy.allowedPaths.map String.ofList
  forbiddenPaths := policy.forbiddenPaths.map String.ofList
  requirePreventivePathEnforcement := policy.requirePreventivePathEnforcement

/-! ## Summaries -/

def ProfilePin.schema (pin : ProfilePin) : Bool :=
  markedId "profile_" 128 pin.profileId && revisionWithin pin.revision && digestText pin.digest

/-- **The `executionGrant` schema.** -/
def ExecutionGrantSummary.schema (s : ExecutionGrantSummary) : Bool :=
  grantPattern s.grant.grantId && revisionWithin s.grant.revision && digestText s.grant.digest &&
    B.utcTimestamp s.grant.expiresAt && repositoryPattern s.repositoryId &&
    bindingPattern s.bindingId && markedId "device_" 128 s.deviceId &&
    markedId "agent_" 128 s.agentId && markedId "plan_" 128 s.planId && stableKey s.nodeKey &&
    itemsWithin 1 6 (fun _ => true) s.operations && s.operations.Nodup &&
    s.runtimeProfile.schema && itemsWithin 0 16 ProfilePin.schema s.verificationProfiles &&
    s.scopePolicy.schema && itemsWithin 0 16 IntegrationTarget.schema s.integrationTargets

/-- What `taskGrantSummary` makes of a grant. -/
def TaskGrantRecord.summary (record : TaskGrantRecord) : ExecutionGrantSummary where
  agentId := record.spec.agentId
  bindingId := record.spec.bindingId
  deviceId := record.owner.deviceId
  grant :=
    { grantId := record.spec.grantId, revision := 1, digest := B.digest (.grant record)
      expiresAt := record.spec.expiresAt }
  repositoryId := record.spec.repositoryId
  planId := record.spec.planId
  nodeKey := record.spec.nodeKey
  operations := record.spec.operations
  runtimeProfile := record.spec.runtimeProfile
  verificationProfiles := record.spec.verificationProfiles
  scopePolicy := record.spec.scopePolicy
  integrationTargets := record.spec.integrationTargets
  issuedAt := record.issuedAt
  revokedAt := none

def taskGrantSummary (record : TaskGrantRecord) : Except ConsentError ExecutionGrantSummary := do
  require (B.canonical (.grant record) = true) .invalid
  require (B.canonical (.grantSummary (record.summary B)) = true ∧
    (record.summary B).schema B = true) .invalid
  pure (record.summary B)

/-! ## Normalization -/

def targetPart (part : List Char) : Bool :=
  part ≠ [] && part.head? ≠ some '.' && part.getLast? ≠ some '.' &&
    !".lock".toList.isSuffixOf part && part.all fun c => 32 ≤ c.toNat && c.toNat ≠ 127

def validGrantTarget (ref : String) : Bool :=
  "refs/heads/".toList.isPrefixOf ref.toList &&
    ref.toList.all (fun c => c ∉ [' ', '~', '^', ':', '?', '*', '[', '\\']) &&
    !ref.toList.tails.any ("..".toList.isPrefixOf ·) &&
    !ref.toList.tails.any ("@\x7b".toList.isPrefixOf ·) &&
    (Repository.parts ref.toList).all targetPart

/-- `normalizeTaskGrant`: the same consent, with its lists in order. -/
def normalizeTaskGrant (spec : TaskGrantSpec) (owner : Owner) (issuedAt : Time) :
    Except ConsentError TaskGrantSpec := do
  require (B.bytes (.grantSpec spec) ≤ recordLimit) .invalid
  require (grantPattern spec.grantId = true ∧ spec.bindingRevision = 1 ∧
    digestText spec.sourceFingerprint = true ∧ markedId "task_" 128 spec.taskId = true ∧
    markedId "room_" 128 spec.roomId = true ∧ digestText spec.planDigest = true ∧
    gitObjectId spec.baseCommit = true ∧ revisionWithin spec.planRevision = true ∧
    revisionWithin spec.definitionRevision = true ∧
    revisionWithin spec.criteriaRevision = true) .invalid
  require (B.bytes (.grant ⟨owner, spec, issuedAt⟩) ≤ recordLimit) .limit
  require (taskGrantSummary B ⟨owner, spec, issuedAt⟩).isOk .invalid
  let policy ← expect (Repository.freezeScopePolicy B.unicode (pathPolicy spec.scopePolicy))
    ConsentError.invalid
  let normalized := { spec with
    scopePolicy := textPolicy policy
    operations := spec.operations.insertionSort (fun a b => a.text ≤ b.text)
    verificationProfiles :=
      spec.verificationProfiles.insertionSort (fun a b => a.profileId ≤ b.profileId)
    integrationTargets :=
      spec.integrationTargets.insertionSort (fun a b => a.targetRef ≤ b.targetRef) }
  require (normalized.verificationProfiles.map (·.profileId)).Nodup .invalid
  require ((normalized.integrationTargets.all fun target =>
    target.repositoryId = spec.repositoryId && validGrantTarget target.targetRef) = true ∧
    (normalized.integrationTargets.map (·.targetRef)).Nodup) .invalid
  pure normalized

/-! ## The store -/

/-- `getTaskGrant`. -/
def grantReader :
    Registry.Reader String TaskGrantRecord TaskGrantRevocation TaskGrantView ConsentError where
  absent := .notExist
  view id record revoked := do
    require (grantPattern id = true) .invalid
    require (B.reads (.grant record) = true) .changed
    require (record.owner = B.owner ∧ record.spec.grantId = id) .changed
    let normalized ← expect (normalizeTaskGrant B record.spec record.owner record.issuedAt)
      ConsentError.changed
    require (normalized = record.spec ∧
      (B.parseTime record.spec.expiresAt).any (record.issuedAt < ·) = true) .changed
    let summary ← expect (taskGrantSummary B record) ConsentError.changed
    match revoked with
    | none => pure ⟨record.spec, summary⟩
    | some r =>
      require (B.reads (.grantRevocation r) = true) .changed
      require (r.grantId = id ∧ r.digest = summary.grant.digest ∧
        record.issuedAt ≤ r.revokedAt) .changed
      pure ⟨record.spec, { summary with
        grant := { summary.grant with revision := 2 }, revokedAt := some r.revokedAt }⟩

def checkGrantBinding (host : BindingHost) (bindings : Bindings) (spec : TaskGrantSpec) :
    Except ConsentError Unit := do
  let found ← Registry.find (bindingReader B) bindings spec.bindingId
  require (found.view.revokedAt = none) .bindingRevoked
  require (spec.bindingRevision = found.view.revision ∧
    spec.sourceFingerprint = found.view.sourceFingerprint ∧
    spec.repositoryId = found.view.repositoryId) .grantDenied
  require (host.git = true) .incomplete
  require (spec.baseCommit.length = match found.record.source.objectFormat with
    | .sha1 => 40
    | .sha256 => 64) .grantDenied
  let current ← host.inspectSource found.record.source.root found.record.allowedRoots
  require (current = found.record.source) .changed

namespace TaskGrants

/-- `listTaskGrants`. -/
def list (t : TaskGrants) : Except ConsentError (List TaskGrantView) := do
  require (Registry.files t ≤ 1024) .limit
  let views ← Registry.list (grantReader B) t
  require (views.length ≤ 256) .limit
  pure views

def issueTaskGrant (host : BindingHost) (bindings : Bindings) (t : TaskGrants)
    (spec : TaskGrantSpec) (now : Time) : Except ConsentError (TaskGrantView × TaskGrants) := do
  let normalized ← normalizeTaskGrant B spec B.owner now
  let existing ← Registry.lookup (grantReader B) t normalized.grantId
  require (existing.all (·.view.summary.revokedAt.isNone) = true) .grantRevoked
  require (existing.all (·.record.spec = normalized) = true) .conflict
  require ((B.parseTime normalized.expiresAt).any (now < ·) = true ∧
    existing.all (·.record.issuedAt ≤ now) = true) .grantExpired
  checkGrantBinding B host bindings normalized
  match existing with
  | some found => pure (found.view, t)
  | none =>
    let views ← list B t
    require (views.length < 256) .limit
    Registry.write (grantReader B) t normalized.grantId ⟨B.owner, normalized, now⟩ none

def revokeTaskGrant (t : TaskGrants) (grantId : String) (expectedRevision : Nat)
    (expectedDigest : String) (now : Time) : Except ConsentError (TaskGrantView × TaskGrants) := do
  require (expectedRevision = 1 ∧ digestText expectedDigest = true) .conflict
  let found ← Registry.find (grantReader B) t grantId
  require (found.view.summary.grant.digest = expectedDigest) .conflict
  if found.view.summary.revokedAt.isSome then pure (found.view, t)
  else do
    require (found.record.issuedAt ≤ now) .invalid
    Registry.write (grantReader B) t grantId found.record (some ⟨grantId, expectedDigest, now⟩)

section Facts

variable {B} {t t' : TaskGrants} {view : TaskGrantView} {now : Time} {host : BindingHost}
  {bindings : Bindings} {record : TaskGrantRecord}

theorem taskGrantSummary_ok {summary : ExecutionGrantSummary}
    (h : taskGrantSummary B record = .ok summary) :
    summary = record.summary B ∧ B.canonical (.grantSummary summary) = true ∧
      summary.schema B = true := by
  obtain ⟨-, h⟩ := Except.of_require h
  obtain ⟨⟨hcanonical, hschema⟩, h⟩ := Except.of_require h
  cases h
  exact ⟨rfl, hcanonical, hschema⟩

/-- **What a view of a grant says of it.** -/
theorem of_view {id : String} {revoked : Option TaskGrantRevocation}
    (h : (grantReader B).view id record revoked = .ok view) :
    record.owner = B.owner ∧ record.spec.grantId = id ∧ view.spec = record.spec ∧
      normalizeTaskGrant B record.spec record.owner record.issuedAt = .ok record.spec ∧
      taskGrantSummary B record = .ok (record.summary B) ∧
      (revoked = none ∧ view.summary = record.summary B ∨
        ∃ r, revoked = some r ∧ view.summary = { record.summary B with
          grant := { (record.summary B).grant with revision := 2 }
          revokedAt := some r.revokedAt }) := by
  obtain ⟨-, h⟩ := Except.of_require h
  obtain ⟨-, h⟩ := Except.of_require h
  obtain ⟨⟨howner, hid⟩, h⟩ := Except.of_require h
  obtain ⟨normalized, hnormal, h⟩ := Except.of_expect h
  obtain ⟨⟨hsame, -⟩, h⟩ := Except.of_require h
  obtain ⟨summary, hsummary, hrest⟩ := Except.of_expect h
  subst hsame
  obtain rfl := (taskGrantSummary_ok hsummary).1
  cases revoked with
  | none =>
    cases hrest
    exact ⟨howner, hid, rfl, hnormal, hsummary, .inl ⟨rfl, rfl⟩⟩
  | some r =>
    obtain ⟨-, hrest⟩ := Except.of_require hrest
    obtain ⟨-, hrest⟩ := Except.of_require hrest
    cases hrest
    exact ⟨howner, hid, rfl, hnormal, hsummary, .inr ⟨r, rfl, rfl⟩⟩

theorem list_ok {views : List TaskGrantView} (h : list B t = .ok views) :
    Registry.list (grantReader B) t = .ok views := by
  obtain ⟨-, h⟩ := Except.of_require h
  obtain ⟨found, hfound, h⟩ := Except.of_bind h
  obtain ⟨-, h⟩ := Except.of_require h
  cases h
  exact hfound

theorem exists_list (hkept : Registry.Bounded (grantReader B) 256 t) :
    ∃ views, list B t = .ok views := by
  obtain ⟨views, hviews⟩ := Registry.exists_list hkept.readable
  have hbound := hkept.bounded
  have hfiles : Registry.files t ≤ 1024 := (Registry.files_le t).trans (by omega)
  refine ⟨views, ?_⟩
  unfold list
  rw [Except.require_bind hfiles, Except.bind_of_ok hviews,
    Except.require_bind (by rw [Registry.length_list hviews]; exact hbound)]
  rfl

variable {spec : TaskGrantSpec}

/-- An issue that returned changed nothing, or wrote a new record of the consent in order. -/
theorem issueTaskGrant_ok (h : issueTaskGrant B host bindings t spec now = .ok (view, t')) :
    ∃ normalized, normalizeTaskGrant B spec B.owner now = .ok normalized ∧
      (t' = t ∨ t.rows.length < 256 ∧ Table.get t normalized.grantId = none ∧
        Registry.write (grantReader B) t normalized.grantId ⟨B.owner, normalized, now⟩ none =
          .ok (view, t')) := by
  obtain ⟨normalized, hnormal, h⟩ := Except.of_bind h
  obtain ⟨existing, hexisting, h⟩ := Except.of_bind h
  iterate 3 obtain ⟨-, h⟩ := Except.of_require h
  obtain ⟨_, -, h⟩ := Except.of_bind h
  refine ⟨normalized, hnormal, ?_⟩
  rcases Registry.lookup_ok hexisting with ⟨rfl, hfree⟩ | ⟨row, previous, -, -, rfl⟩
  · obtain ⟨views, hviews, h⟩ := Except.of_bind h
    obtain ⟨hroom, h⟩ := Except.of_require h
    exact .inr ⟨Registry.length_list (list_ok hviews) ▸ hroom, hfree, h⟩
  · cases h
    exact .inl rfl

variable {grantId expectedDigest : String} {expectedRevision : Nat}

theorem revokeTaskGrant_ok
    (h : revokeTaskGrant B t grantId expectedRevision expectedDigest now = .ok (view, t')) :
    t' = t ∨ ∃ row revoked, Table.get t grantId = some row ∧
      Registry.write (grantReader B) t grantId row.1 revoked = .ok (view, t') := by
  obtain ⟨-, h⟩ := Except.of_require h
  obtain ⟨found, hfound, h⟩ := Except.of_bind h
  obtain ⟨-, h⟩ := Except.of_require h
  obtain ⟨v, hrow, -⟩ := Registry.find_ok hfound
  split at h
  · cases h
    exact .inl rfl
  · obtain ⟨-, h⟩ := Except.of_require h
    exact .inr ⟨_, _, hrow, h⟩

theorem issueTaskGrant_bounded (hkept : Registry.Bounded (grantReader B) 256 t)
    (h : issueTaskGrant B host bindings t spec now = .ok (view, t')) :
    Registry.Bounded (grantReader B) 256 t' := by
  obtain ⟨normalized, -, rfl | ⟨hroom, hfree, hwrite⟩⟩ := issueTaskGrant_ok h
  · exact hkept
  · exact hkept.new hroom hfree hwrite

theorem revokeTaskGrant_bounded (hkept : Registry.Bounded (grantReader B) 256 t)
    (h : revokeTaskGrant B t grantId expectedRevision expectedDigest now = .ok (view, t')) :
    Registry.Bounded (grantReader B) 256 t' := by
  obtain rfl | ⟨row, revoked, hrow, hwrite⟩ := revokeTaskGrant_ok h
  · exact hkept
  · exact hkept.again hrow hwrite

end Facts

end TaskGrants

end AgentRoom.Consent
