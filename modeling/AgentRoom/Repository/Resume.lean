import AgentRoom.Execution.Records
import AgentRoom.Repository.Snapshot
import AgentRoom.Lib.Checks

/-!
# Resuming from a checkpoint

`compatibleResume`: what a new Run may change of the Run it resumes. The check reads two manifests,
the new one and the one that the checkpoint was captured under.
-/

namespace AgentRoom.Repository

open Execution (Manifest ManifestScope InputBinding)
open Plan (ArtifactSlot RepositoryInput VerificationProfile)

/-- What is compared by its digest. -/
inductive ResumeValue where
  | scopePolicy (policy : Plan.ScopePolicy)
  | verificationProfiles (profiles : List VerificationProfile)
  | outputs (slots : List ArtifactSlot)
  | inputs (sources : List InputBinding)
  deriving DecidableEq

/-- `digest` and `time.Parse`. -/
structure ResumePlatform (Digest : Type) where
  digest : ResumeValue → Digest
  parseTime : String → Option Time

/-- Values of one kind with one digest are equal. -/
structure ResumePlatform.Faithful {Digest : Type} (P : ResumePlatform Digest) : Prop where
  scopePolicy : ∀ a b, P.digest (.scopePolicy a) = P.digest (.scopePolicy b) → a = b
  verificationProfiles : ∀ a b,
    P.digest (.verificationProfiles a) = P.digest (.verificationProfiles b) → a = b
  outputs : ∀ a b, P.digest (.outputs a) = P.digest (.outputs b) → a = b
  inputs : ∀ a b, P.digest (.inputs a) = P.digest (.inputs b) → a = b

variable {Digest : Type} [DecidableEq Digest] (P : ResumePlatform Digest)

/-- The source of an input, without its binding, its Run and its interval. -/
def source (input : InputBinding) : InputBinding :=
  { input with bindingId := "", destinationRunId := "", issuedAt := 0, expiresAt := 0 }

/-- The input is bound to the Run of its manifest, in an interval that ends by the deadline. A
deadline that is no time is long past. -/
def boundHere (manifest : Manifest) (input : InputBinding) : Bool :=
  input.planId = manifest.scope.planId && input.planRevision = manifest.scope.planRevision &&
    input.destinationTaskId = manifest.scope.taskId &&
    input.destinationRunId = manifest.scope.runId &&
    input.destinationAgentId = manifest.scope.agentId &&
    input.destinationDeviceId = manifest.scope.deviceId && input.issuedAt < input.expiresAt &&
    (P.parseTime manifest.deadline).any (input.expiresAt ≤ ·)

/-- The loop of `resumeInputSources`, past the bindings and the slots it has seen. -/
def inputSources (manifest : Manifest) (bindings slots : List String) :
    List InputBinding → Except RepositoryError (List InputBinding)
  | [] => .ok []
  | input :: rest => do
      Except.require (boundHere P manifest input = true ∧ input.bindingId ∉ bindings ∧
        input.inputSlot ∉ slots) .conflict
      let sources ← inputSources manifest (input.bindingId :: bindings) (input.inputSlot :: slots)
        rest
      pure (source input :: sources)

def resumeInputSources (manifest : Manifest) : Except RepositoryError (List InputBinding) :=
  inputSources P manifest [] [] manifest.inputs

/-- The new Run is another attempt, later, in another workspace under another lease. -/
def anotherAttempt (previous next : Manifest) : Bool :=
  previous.scope.runId ≠ next.scope.runId &&
    previous.scope.dispatchGeneration < next.scope.dispatchGeneration &&
    previous.scope.taskRevision ≤ next.scope.taskRevision &&
    previous.scope.planControlRevision ≤ next.scope.planControlRevision &&
    previous.workspace.workspaceRef ≠ next.workspace.workspaceRef &&
    previous.workspace.leaseId ≠ next.workspace.leaseId &&
    previous.workspace.workspaceGeneration ≠ next.workspace.workspaceGeneration

/-- The scope of another attempt. -/
def ManifestScope.attempt (scope attempt : ManifestScope) : ManifestScope :=
  { scope with
    runId := attempt.runId
    dispatchGeneration := attempt.dispatchGeneration
    taskRevision := attempt.taskRevision
    planControlRevision := attempt.planControlRevision }

/-- The repository under another grant. -/
def RepositoryInput.granted (repository grant : RepositoryInput) : RepositoryInput :=
  { repository with
    grantId := grant.grantId
    grantRevision := grant.grantRevision }

/-- The code, the runtime profile, the scope and the contract of the outputs stay. -/
def sameContract (previous next : Manifest) : Bool :=
  ManifestScope.attempt previous.scope next.scope = next.scope &&
    RepositoryInput.granted previous.repository next.repository = next.repository &&
    P.digest (.scopePolicy previous.scopePolicy) = P.digest (.scopePolicy next.scopePolicy) &&
    P.digest (.verificationProfiles previous.verificationProfiles) =
      P.digest (.verificationProfiles next.verificationProfiles) &&
    P.digest (.outputs previous.outputs) = P.digest (.outputs next.outputs)

/-- So do the sources of the inputs. -/
def sameSources (previous next : Manifest) : Bool :=
  match resumeInputSources P previous, resumeInputSources P next with
  | .ok before, .ok after => P.digest (.inputs before) = P.digest (.inputs after)
  | _, _ => false

/-- No binding of the previous Run is used again. -/
def freshBindings (previous next : Manifest) : Bool :=
  next.inputs.all fun input => previous.inputs.all fun old => old.bindingId ≠ input.bindingId

/-- **`compatibleResume`.** -/
def compatibleResume (previous next : Manifest) : Bool :=
  anotherAttempt previous next && sameContract P previous next && sameSources P previous next &&
    freshBindings previous next

/-! ## One step -/

variable {P} {manifest a b c : Manifest}

omit [DecidableEq Digest] in
theorem inputSources_ok {bindings slots : List String} {inputs sources : List InputBinding}
    (h : inputSources P manifest bindings slots inputs = .ok sources) :
    sources = inputs.map source ∧ (inputs.map (·.bindingId)).Nodup ∧
      ∀ input ∈ inputs, input.bindingId ∉ bindings := by
  induction inputs generalizing bindings slots sources with
  | nil => exact ⟨(Except.ok.inj h).symm, List.nodup_nil, fun _ hin => by cases hin⟩
  | cons input rest ih =>
    obtain ⟨⟨-, hbinding, -⟩, h⟩ := Except.of_require h
    obtain ⟨after, hrest, h⟩ := Except.of_bind h
    obtain ⟨rfl, hnodup, hfresh⟩ := ih hrest
    refine ⟨(Except.ok.inj h).symm, List.nodup_cons.mpr ⟨fun hin => ?_, hnodup⟩, ?_⟩
    · obtain ⟨other, hother, hsame⟩ := List.mem_map.mp hin
      exact hfresh other hother (hsame ▸ List.mem_cons_self)
    · intro other hother
      obtain rfl | hother := List.mem_cons.mp hother
      · exact hbinding
      · exact fun hin => hfresh other hother (List.mem_cons_of_mem _ hin)

/-- **What an accepted step keeps**, up to digests. -/
structure SameContract (P : ResumePlatform Digest) (a b : Manifest) : Prop where
  scope : ManifestScope.attempt a.scope b.scope = b.scope
  repository : RepositoryInput.granted a.repository b.repository = b.repository
  scopePolicy : P.digest (.scopePolicy a.scopePolicy) = P.digest (.scopePolicy b.scopePolicy)
  verificationProfiles : P.digest (.verificationProfiles a.verificationProfiles) =
    P.digest (.verificationProfiles b.verificationProfiles)
  outputs : P.digest (.outputs a.outputs) = P.digest (.outputs b.outputs)
  inputs : P.digest (.inputs (a.inputs.map source)) = P.digest (.inputs (b.inputs.map source))

/-- **What an accepted step does not use again.** -/
structure Separate (a b : Manifest) : Prop where
  runId : a.scope.runId ≠ b.scope.runId
  workspaceRef : a.workspace.workspaceRef ≠ b.workspace.workspaceRef
  leaseId : a.workspace.leaseId ≠ b.workspace.leaseId
  workspaceGeneration : a.workspace.workspaceGeneration ≠ b.workspace.workspaceGeneration
  bindings : ∀ old ∈ a.inputs, ∀ input ∈ b.inputs, old.bindingId ≠ input.bindingId

/-- **What an accepted step counts.** -/
structure Later (a b : Manifest) : Prop where
  dispatchGeneration : a.scope.dispatchGeneration < b.scope.dispatchGeneration
  taskRevision : a.scope.taskRevision ≤ b.scope.taskRevision
  planControlRevision : a.scope.planControlRevision ≤ b.scope.planControlRevision

/-- The inputs of a manifest that was compared have bindings of their own. -/
def OwnBindings (manifest : Manifest) : Prop := (manifest.inputs.map (·.bindingId)).Nodup

/-- **What `compatibleResume` says of two Runs.** -/
theorem compatibleResume_cases (h : compatibleResume P a b = true) :
    SameContract P a b ∧ Later a b ∧ Separate a b ∧ OwnBindings a ∧ OwnBindings b := by
  unfold compatibleResume at h
  simp only [Bool.and_eq_true] at h
  obtain ⟨⟨⟨hattempt, hcontract⟩, hsources⟩, hbindings⟩ := h
  simp only [anotherAttempt, Bool.and_eq_true, decide_eq_true_eq] at hattempt
  obtain ⟨⟨⟨⟨⟨⟨hrun, hgeneration⟩, htask⟩, hcontrol⟩, hworkspace⟩, hlease⟩, hlocal⟩ := hattempt
  simp only [sameContract, Bool.and_eq_true, decide_eq_true_eq] at hcontract
  obtain ⟨⟨⟨⟨hscope, hrepository⟩, hpolicy⟩, hprofiles⟩, houtputs⟩ := hcontract
  unfold sameSources at hsources
  split at hsources
  · next before after hbefore hafter =>
      obtain ⟨rfl, hownA, -⟩ := inputSources_ok hbefore
      obtain ⟨rfl, hownB, -⟩ := inputSources_ok hafter
      refine ⟨⟨hscope, hrepository, hpolicy, hprofiles, houtputs, of_decide_eq_true hsources⟩,
        ⟨hgeneration, htask, hcontrol⟩, ⟨hrun, hworkspace, hlease, hlocal, ?_⟩, hownA, hownB⟩
      intro old hold input hinput
      have hall := List.all_eq_true.mp (List.all_eq_true.mp hbindings input hinput) old hold
      exact of_decide_eq_true hall
  · cases hsources

/-! ## A chain -/

omit [DecidableEq Digest] in
theorem SameContract.trans (hab : SameContract P a b) (hbc : SameContract P b c) :
    SameContract P a c where
  scope := by
    have hb := hab.scope
    have hc := hbc.scope
    rw [← hb] at hc
    exact hc
  repository := by
    have hb := hab.repository
    have hc := hbc.repository
    rw [← hb] at hc
    exact hc
  scopePolicy := hab.scopePolicy.trans hbc.scopePolicy
  verificationProfiles := hab.verificationProfiles.trans hbc.verificationProfiles
  outputs := hab.outputs.trans hbc.outputs
  inputs := hab.inputs.trans hbc.inputs

theorem Later.trans (hab : Later a b) (hbc : Later b c) : Later a c :=
  ⟨hab.dispatchGeneration.trans hbc.dispatchGeneration, hab.taskRevision.trans hbc.taskRevision,
    hab.planControlRevision.trans hbc.planControlRevision⟩

/-- **What two Runs of a chain share**: Task, plan, node, runtime profile, scope, contract of the
outputs, and the sources of the inputs. -/
structure Shared (a b : Manifest) : Prop where
  taskId : a.scope.taskId = b.scope.taskId
  definitionRevision : a.scope.definitionRevision = b.scope.definitionRevision
  criteriaRevision : a.scope.criteriaRevision = b.scope.criteriaRevision
  planId : a.scope.planId = b.scope.planId
  planRevision : a.scope.planRevision = b.scope.planRevision
  planDigest : a.scope.planDigest = b.scope.planDigest
  nodeKey : a.scope.nodeKey = b.scope.nodeKey
  agentId : a.scope.agentId = b.scope.agentId
  deviceId : a.scope.deviceId = b.scope.deviceId
  repositoryId : a.repository.repositoryId = b.repository.repositoryId
  baseCommit : a.repository.baseCommit = b.repository.baseCommit
  runtimeProfileId : a.repository.runtimeProfileId = b.repository.runtimeProfileId
  runtimeProfileDigest : a.repository.runtimeProfileDigest = b.repository.runtimeProfileDigest
  scopePolicy : a.scopePolicy = b.scopePolicy
  verificationProfiles : a.verificationProfiles = b.verificationProfiles
  outputs : a.outputs = b.outputs
  inputs : a.inputs.map source = b.inputs.map source

omit [DecidableEq Digest] in
theorem SameContract.shared (hP : P.Faithful) (h : SameContract P a b) : Shared a b where
  taskId := (congrArg ManifestScope.taskId h.scope :)
  definitionRevision := (congrArg ManifestScope.definitionRevision h.scope :)
  criteriaRevision := (congrArg ManifestScope.criteriaRevision h.scope :)
  planId := (congrArg ManifestScope.planId h.scope :)
  planRevision := (congrArg ManifestScope.planRevision h.scope :)
  planDigest := (congrArg ManifestScope.planDigest h.scope :)
  nodeKey := (congrArg ManifestScope.nodeKey h.scope :)
  agentId := (congrArg ManifestScope.agentId h.scope :)
  deviceId := (congrArg ManifestScope.deviceId h.scope :)
  repositoryId := (congrArg RepositoryInput.repositoryId h.repository :)
  baseCommit := (congrArg RepositoryInput.baseCommit h.repository :)
  runtimeProfileId := (congrArg RepositoryInput.runtimeProfileId h.repository :)
  runtimeProfileDigest := (congrArg RepositoryInput.runtimeProfileDigest h.repository :)
  scopePolicy := hP.scopePolicy _ _ h.scopePolicy
  verificationProfiles := hP.verificationProfiles _ _ h.verificationProfiles
  outputs := hP.outputs _ _ h.outputs
  inputs := hP.inputs _ _ h.inputs

variable (P)

/-- Each Run of the list resumes the one before it. -/
def Resumes (chain : List Manifest) : Prop :=
  chain.IsChain fun previous next => compatibleResume P previous next = true

/-- **What holds along a chain of resumed Runs.** -/
structure ResumeLaw : Prop where
  /-- Every two Runs of the chain agree on what a resume keeps, up to digests; -/
  contract : ∀ chain, Resumes P chain → chain.Pairwise (SameContract P)
  /-- where digests tell values apart, on the values. -/
  shared : P.Faithful → ∀ chain, Resumes P chain → chain.Pairwise Shared
  /-- The dispatch generation rises along the chain, and no revision falls. -/
  later : ∀ chain, Resumes P chain → chain.Pairwise Later
  /-- A Run and the one it resumes have nothing of a lease and no binding in common. -/
  separate : ∀ chain, Resumes P chain → chain.IsChain Separate
  /-- No Run binds two inputs by one name. -/
  ownBindings : ∀ chain, Resumes P chain → 2 ≤ chain.length → ∀ manifest ∈ chain,
    OwnBindings manifest

variable {P}

/-- **Comparisons with the Run before add up** to comparisons with every Run before. -/
theorem Resumes.pairwise {R : Manifest → Manifest → Prop} {chain : List Manifest}
    (h : Resumes P chain) (hstep : ∀ a b, compatibleResume P a b = true → R a b)
    (htrans : ∀ a b c, R a b → R b c → R a c) : chain.Pairwise R := by
  have : Trans R R R := ⟨fun hab hbc => htrans _ _ _ hab hbc⟩
  exact List.isChain_iff_pairwise.mp (h.imp fun a b => hstep a b)

theorem Resumes.ownBindings {chain : List Manifest} (h : Resumes P chain)
    (hlength : 2 ≤ chain.length) : ∀ manifest ∈ chain, OwnBindings manifest := by
  induction chain with
  | nil => exact fun _ hin => by cases hin
  | cons a rest ih =>
    cases rest with
    | nil => exact absurd hlength (Nat.lt_irrefl 1)
    | cons b rest =>
      obtain ⟨hstep, hrest⟩ := List.isChain_cons_cons.mp h
      obtain ⟨-, -, -, hownA, hownB⟩ := compatibleResume_cases hstep
      intro manifest hin
      obtain rfl | hin := List.mem_cons.mp hin
      · exact hownA
      · cases rest with
        | nil =>
          obtain rfl := List.mem_singleton.mp hin
          exact hownB
        | cons c rest => exact ih hrest (Nat.le_add_left 2 _) manifest hin

/-- **The resume law.** -/
theorem resume_law (P : ResumePlatform Digest) : ResumeLaw P where
  contract _ h := h.pairwise (fun _ _ hstep => (compatibleResume_cases hstep).1)
    fun _ _ _ => SameContract.trans
  shared hP _ h := (h.pairwise (fun _ _ hstep => (compatibleResume_cases hstep).1)
    fun _ _ _ => SameContract.trans).imp fun hsame => hsame.shared hP
  later _ h := h.pairwise (fun _ _ hstep => (compatibleResume_cases hstep).2.1)
    fun _ _ _ => Later.trans
  separate _ h := h.imp fun _ _ hstep => (compatibleResume_cases hstep).2.2.1
  ownBindings _ h := h.ownBindings

/-! ## A Run that is resumed twice -/

/-- Digests that tell everything apart, and one deadline. -/
def samplePlatform : ResumePlatform ResumeValue where
  digest := id
  parseTime _ := some 100

def sampleInput (bindingId runId : String) : InputBinding where
  bindingId
  planId := "plan"
  planRevision := 1
  edgeKey := none
  gate := .acceptedResult
  gateOperationId := "op_gate"
  gateDigest := "gate"
  sourceTaskId := "source"
  sourceDefinitionRevision := 1
  sourceCriteriaRevision := 1
  sourceResultId := none
  sourceResultVersion := none
  sourceAuthority := none
  sourceOutputSlot := "patch"
  artifact := ⟨"artifact", 1, "content", 10, .patch⟩
  repositoryId := none
  sourceCommit := none
  sourceTree := none
  destinationTaskId := "task"
  destinationRunId := runId
  destinationAgentId := "agent"
  destinationDeviceId := "device"
  inputSlot := "slot"
  issuedAt := 10
  expiresAt := 20

/-- The manifest of a Run: its generation, its lease and its binding. -/
def sampleManifest (runId : String) (generation : Nat) (lease binding : String) : Manifest where
  scope :=
    { planId := "plan", planRevision := 1, planDigest := "plan", planControlRevision := 1
      approvalOperationId := "op_approve", nodeKey := "node", dispatchGeneration := generation
      roomId := "room", taskId := "task", taskRevision := 1, definitionRevision := 1
      criteriaRevision := 1, runId, deviceId := "device", agentId := "agent" }
  repository := ⟨"repository", "repositoryBinding", "base", "grant", 1, "profile", "profile"⟩
  grant := ⟨"grant", 1, "grant", "later"⟩
  scopePolicy := ⟨.isolatedWrite, ["src"], [], true⟩
  verificationProfiles := []
  outputs := [⟨"patch", .patch, true⟩]
  inputs := [sampleInput binding runId]
  inputDigest := "inputs"
  workspace := ⟨lease, lease, lease, "isolated_worktree", "now", "later"⟩
  capture := none
  deadline := "later"
  manifestDigest := "manifest"

/-- The third Run of the chain. -/
def sampleChain : List Manifest :=
  [sampleManifest "run1" 1 "lease1" "binding1", sampleManifest "run2" 2 "lease2" "binding2",
    sampleManifest "run3" 3 "lease1" "binding1"]

/-- **The check looks back one Run**: what a Run shares with the Run before the one it resumes is
accepted, its lease, its workspace and its binding. -/
theorem resume_reuses : samplePlatform.Faithful ∧ Resumes samplePlatform sampleChain ∧
    ¬ sampleChain.Pairwise fun a b =>
      a.workspace.workspaceRef ≠ b.workspace.workspaceRef ∧
        a.workspace.leaseId ≠ b.workspace.leaseId ∧
        a.workspace.workspaceGeneration ≠ b.workspace.workspaceGeneration ∧
        ∀ old ∈ a.inputs, ∀ input ∈ b.inputs, old.bindingId ≠ input.bindingId := by
  refine ⟨⟨fun _ _ h => ?_, fun _ _ h => ?_, fun _ _ h => ?_, fun _ _ h => ?_⟩, ?_, ?_⟩
  · exact ResumeValue.scopePolicy.inj h
  · exact ResumeValue.verificationProfiles.inj h
  · exact ResumeValue.outputs.inj h
  · exact ResumeValue.inputs.inj h
  · have hfirst : compatibleResume samplePlatform (sampleManifest "run1" 1 "lease1" "binding1")
        (sampleManifest "run2" 2 "lease2" "binding2") = true := by decide +kernel
    have hsecond : compatibleResume samplePlatform (sampleManifest "run2" 2 "lease2" "binding2")
        (sampleManifest "run3" 3 "lease1" "binding1") = true := by decide +kernel
    exact .cons_cons hfirst (.cons_cons hsecond (.singleton _))
  · intro hpairwise
    have hlast := List.mem_cons_of_mem (sampleManifest "run2" 2 "lease2" "binding2")
      (List.mem_singleton_self (sampleManifest "run3" 3 "lease1" "binding1"))
    exact (List.rel_of_pairwise_cons hpairwise hlast).1 rfl

end AgentRoom.Repository
