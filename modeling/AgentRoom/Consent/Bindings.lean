import AgentRoom.Consent.Records

/-!
# Repository bindings

The binding half of `BindingStore`: a binding names one physical checkout under a repository id.
What a checkout looks like at a call is a host answer of that call.
-/

namespace AgentRoom.Consent

open Except (demand require)
open Plan (markedId)

variable (B : Bridge)

/-- What the host answers a call about paths and checkouts. -/
structure BindingHost where
  /-- Whether a Git executable was found. -/
  git : Bool
  canonicalDirectory : String → Option String
  /-- `InspectSource`. -/
  inspectSource : String → List String → Except ConsentError Source

def bindingPattern : String → Bool := markedId "repobind_" 128
def repositoryPattern : String → Bool := markedId "repo_" 128

def validBindingAlias (aliasName : String) : Bool :=
  aliasName ∉ ["", ".", ".."] && B.unicode.trimSpace aliasName.toList = aliasName.toList &&
    aliasName.length ≤ 80 &&
    aliasName.toList.all fun c => c ≠ '/' && c ≠ '\\' && !B.unicode.isControl c

/-- The check of one path of `validBindingPaths`. -/
def cleanBindingPath (path : String) : Bool := B.cleanPath path && !B.rootPath path

def validBindingPaths (record : BindingRecord) : Bool :=
  record.allowedRoots.all (cleanBindingPath B) && record.allowedRoots.Pairwise (· < ·) &&
    [record.source.root, record.source.gitDirectory, record.source.commonDirectory].all
      (fun path => cleanBindingPath B path && record.allowedRoots.any (B.contained · path)) &&
    !B.contained record.source.root B.dataRoot && !B.contained B.dataRoot record.source.root

/-- What `get` asks of a binding. -/
def bindingSound (id : String) (record : BindingRecord) : Bool :=
  record.bindingId = id && record.owner = B.owner && repositoryPattern record.repositoryId &&
    validBindingAlias B record.aliasName && record.allowedRoots ≠ [] &&
    record.allowedRoots.length ≤ 16 && validBindingPaths B record &&
    record.source.rootIdentity ≠ "" && record.source.gitIdentity ≠ "" &&
    record.source.commonIdentity ≠ ""

def BindingRecord.view (record : BindingRecord) : BindingView where
  bindingId := record.bindingId
  repositoryId := record.repositoryId
  aliasName := record.aliasName
  revision := 1
  sourceFingerprint := B.digest (.source record.source)
  registeredAt := record.registeredAt
  revokedAt := none

/-- `get`. -/
def bindingReader :
    Registry.Reader String BindingRecord BindingRevocation BindingView ConsentError where
  absent := .notExist
  view id record revoked := do
    require (bindingPattern id = true) .invalid
    require (B.reads (.binding record) = true) .changed
    require (bindingSound B id record = true) .changed
    match revoked with
    | none => pure (record.view B)
    | some r =>
      require (B.reads (.bindingRevocation r) = true) .changed
      require (r.bindingId = id ∧ r.bindingDigest = B.digest (.binding record) ∧
        record.registeredAt ≤ r.revokedAt) .changed
      pure { record.view B with revision := 2, revokedAt := some r.revokedAt }

namespace Bindings

def list (t : Bindings) : Except ConsentError (List BindingView) := do
  require (Registry.files t ≤ 1024) .limit
  let views ← Registry.list (bindingReader B) t
  require (views.length ≤ 256) .limit
  pure views

def bind (host : BindingHost) (t : Bindings) (input : BindRepository) (now : Time) :
    Except ConsentError (BindingView × Bindings) := do
  require (bindingPattern input.bindingId = true ∧ repositoryPattern input.repositoryId = true ∧
    validBindingAlias B input.aliasName = true ∧ input.allowedRoots ≠ [] ∧
    input.allowedRoots.length ≤ 16 ∧ host.git = true) .invalid
  let existing ← Registry.lookup (bindingReader B) t input.bindingId
  require (existing.all (·.view.revokedAt.isNone) = true) .bindingRevoked
  let roots ← input.allowedRoots.mapM fun path =>
    demand ((host.canonicalDirectory path).filter (!B.rootPath ·)) ConsentError.invalid
  let roots := roots.insertionSort (· ≤ ·)
  require roots.Nodup .invalid
  let source ← host.inspectSource input.selectedRoot roots
  require (B.contained source.root B.dataRoot = false ∧
    B.contained B.dataRoot source.root = false) .invalid
  let record : BindingRecord :=
    { bindingId := input.bindingId, repositoryId := input.repositoryId
      aliasName := input.aliasName, owner := B.owner, allowedRoots := roots, source
      registeredAt := now }
  match existing with
  | some found =>
    require ({ record with registeredAt := found.record.registeredAt } = found.record) .conflict
    pure (found.view, t)
  | none =>
    let views ← list B t
    require (views.length < 256) .limit
    require (B.bytes (.binding record) ≤ recordLimit) .limit
    Registry.write (bindingReader B) t input.bindingId record none

def revoke (t : Bindings) (bindingId : String) (expectedRevision : Nat) (now : Time) :
    Except ConsentError (BindingView × Bindings) := do
  require (bindingPattern bindingId = true ∧ expectedRevision = 1) .conflict
  let found ← Registry.find (bindingReader B) t bindingId
  if found.view.revokedAt.isSome then pure (found.view, t)
  else do
    require (found.record.registeredAt ≤ now) .invalid
    Registry.write (bindingReader B) t bindingId found.record
      (some ⟨bindingId, B.digest (.binding found.record), now⟩)

def resolveSource (host : BindingHost) (t : Bindings) (bindingId repositoryId : String)
    (revision : Nat) : Except ConsentError Source := do
  require (host.git = true) .incomplete
  let found ← Registry.find (bindingReader B) t bindingId
  require (found.view.revokedAt = none) .bindingRevoked
  require (revision = 1 ∧ found.record.repositoryId = repositoryId) .conflict
  let current ← host.inspectSource found.record.source.root found.record.allowedRoots
  require (current = found.record.source) .changed
  pure current

section Facts

variable {B} {host : BindingHost} {t t' : Bindings} {view : BindingView} {now : Time}

theorem list_ok {views : List BindingView} (h : list B t = .ok views) :
    views.length = t.rows.length ∧ t.rows.length ≤ 256 := by
  obtain ⟨-, h⟩ := Except.of_require h
  obtain ⟨found, hfound, h⟩ := Except.of_bind h
  obtain ⟨hbound, h⟩ := Except.of_require h
  cases h
  have hlength := Registry.length_list hfound
  exact ⟨hlength, hlength ▸ hbound⟩

/-- **A readable store within its bound can be listed.** -/
theorem exists_list (hkept : Registry.Bounded (bindingReader B) 256 t) :
    ∃ views, list B t = .ok views := by
  obtain ⟨views, hviews⟩ := Registry.exists_list hkept.readable
  have hbound := hkept.bounded
  have hfiles : Registry.files t ≤ 1024 := (Registry.files_le t).trans (by omega)
  refine ⟨views, ?_⟩
  unfold list
  rw [Except.require_bind hfiles, Except.bind_of_ok hviews,
    Except.require_bind (by rw [Registry.length_list hviews]; exact hbound)]
  rfl

theorem bind_bounded {input : BindRepository} (hkept : Registry.Bounded (bindingReader B) 256 t)
    (h : bind B host t input now = .ok (view, t')) : Registry.Bounded (bindingReader B) 256 t' := by
  obtain ⟨-, h⟩ := Except.of_require h
  obtain ⟨existing, hexisting, h⟩ := Except.of_bind h
  obtain ⟨-, h⟩ := Except.of_require h
  obtain ⟨roots, -, h⟩ := Except.of_bind h
  obtain ⟨-, h⟩ := Except.of_require h
  obtain ⟨source, -, h⟩ := Except.of_bind h
  obtain ⟨-, h⟩ := Except.of_require h
  rcases Registry.lookup_ok hexisting with ⟨rfl, hfree⟩ | ⟨row, previous, -, -, rfl⟩
  · obtain ⟨views, hviews, h⟩ := Except.of_bind h
    obtain ⟨hroom, h⟩ := Except.of_require h
    obtain ⟨-, h⟩ := Except.of_require h
    exact hkept.new ((list_ok hviews).1 ▸ hroom) hfree h
  · obtain ⟨-, h⟩ := Except.of_require h
    cases h
    exact hkept

theorem revoke_bounded {bindingId : String} {expectedRevision : Nat}
    (hkept : Registry.Bounded (bindingReader B) 256 t)
    (h : revoke B t bindingId expectedRevision now = .ok (view, t')) :
    Registry.Bounded (bindingReader B) 256 t' := by
  obtain ⟨-, h⟩ := Except.of_require h
  obtain ⟨found, hfound, h⟩ := Except.of_bind h
  obtain ⟨v, hrow, -⟩ := Registry.find_ok hfound
  split at h
  · cases h
    exact hkept
  · obtain ⟨-, h⟩ := Except.of_require h
    exact hkept.again hrow h

end Facts

end Bindings

end AgentRoom.Consent
