import AgentRoom.Integration.System
import AgentRoom.Integration.Discipline

/-!
# What a receipt says

What an execution knows is true of the desk it works at, through every step of its
own and of others. Hence in a history whose steps are truthful every receipt tells
the truth, stays as it is, and ends the updates of its operation.

A step that is not truthful hides an effect: an update that took effect and was
killed, after which the ref was moved away before it was inspected, is reported as
failed.
-/

namespace AgentRoom.Integration

variable {rules : EvidenceRules} {operationId : String}

/-! ## What is known is true -/

/-- **What is known of a desk.** -/
def Knows.Holds (d : Desk) : Knows → Prop
  | .nothing => True
  | .started => d.lastUpdate = none
  | .unsettled => WriteOnce.read d.receipt = none ∧ d.lastUpdate = none
  | .fresh =>
    WriteOnce.read d.receipt = none ∧ WriteOnce.read d.intent = none ∧ d.effects = 0
  | .admitted a =>
    WriteOnce.read d.receipt = none ∧ WriteOnce.read d.intent = some a ∧ d.lastUpdate = none
  | .clear a =>
    WriteOnce.read d.receipt = none ∧ WriteOnce.read d.intent = some a ∧ d.effects = 0
  | .attempted a well =>
    WriteOnce.read d.receipt = none ∧ WriteOnce.read d.intent = some a ∧
      d.lastUpdate = some well
  | .held a =>
    WriteOnce.read d.receipt = none ∧ WriteOnce.read d.intent = some a ∧
      (a.operation.action.target.targetRef, a.operation.action.candidateCommit) ∈ d.seen

theorem Knows.Holds.unsettled {d : Desk} {k : Knows} (h : k.Holds d)
    (hk : k.isUnsettled = true) : WriteOnce.read d.receipt = none := by
  cases k with
  | nothing => cases hk
  | started => cases hk
  | unsettled => exact h.1
  | fresh => exact h.1
  | admitted a => exact h.1
  | clear a => exact h.1
  | attempted a well => exact h.1
  | held a => exact h.1

variable {d : Desk} {k : Knows}

theorem Knows.Holds.moved (h : k.Holds d) (refs : Table String String) :
    k.Holds { d with refs } := by
  cases k <;> exact h

/-- An effect needs an intent. -/
def Admitted (d : Desk) : Prop := 0 < d.effects → (WriteOnce.read d.intent).isSome = true

/-- Reading a ref adds what it says. -/
theorem Knows.Holds.read (h : k.Holds d) {targetRef commit : String}
    (hread : d.refs.get targetRef = some commit) (htruthful : TruthfulRead d targetRef) :
    (k.afterRead targetRef commit).Holds { d with seen := d.seen ++ [(targetRef, commit)] } := by
  cases k with
  | nothing => trivial
  | started => exact h
  | unsettled => exact h
  | fresh => exact h
  | clear a => exact h
  | held a => exact ⟨h.1, h.2.1, List.mem_append_left _ h.2.2⟩
  | admitted a =>
    obtain ⟨hreceipt, hintent, hlast⟩ := h
    unfold Knows.afterRead
    dsimp only
    split
    · exact ⟨hreceipt, hintent, hlast⟩
    · rename_i hsame
      have htarget : targetRef = a.operation.action.target.targetRef := not_not.mp hsame
      split
      · rename_i hcandidate
        refine ⟨hreceipt, hintent, List.mem_append_right _ ?_⟩
        rw [htarget, hcandidate]
        exact List.mem_singleton.mpr rfl
      · split
        · rename_i hexpected
          refine ⟨hreceipt, hintent, ?_⟩
          -- the approved commit is not found again after an effect
          by_contra heffects
          have hpositive : 0 < d.effects := Nat.pos_of_ne_zero heffects
          have hcondition := htruthful hpositive a hintent htarget
          rw [hlast] at hcondition
          exact hcondition (hexpected ▸ hread)
        · exact ⟨hreceipt, hintent, hlast⟩
  | attempted a well =>
    obtain ⟨hreceipt, hintent, hlast⟩ := h
    unfold Knows.afterRead
    dsimp only
    split
    · exact ⟨hreceipt, hintent, hlast⟩
    · rename_i hsame
      have htarget : targetRef = a.operation.action.target.targetRef := not_not.mp hsame
      split
      · rename_i hcandidate
        refine ⟨hreceipt, hintent, List.mem_append_right _ ?_⟩
        rw [htarget, hcandidate]
        exact List.mem_singleton.mpr rfl
      · rename_i hother
        split
        · exact ⟨hreceipt, hintent, hlast⟩
        · rename_i hfailed
          refine ⟨hreceipt, hintent, ?_⟩
          -- after a failed update the ref still holds what the update left
          by_contra heffects
          have hpositive : 0 < d.effects := Nat.pos_of_ne_zero heffects
          have hcondition := htruthful hpositive a hintent htarget
          rw [hlast, show well = false from Bool.eq_false_iff.mpr hfailed, hread] at hcondition
          exact hother (Option.some.inj hcondition)

/-- **What is known after an operation is true of the desk it leaves.** -/
theorem Knows.Holds.performed {d' : Desk} (h : k.Holds d) (hadmitted : Admitted d)
    {op : IntegrationOp} {response : op.Resp} (hallowed : k.allows op)
    (hperforms : Performs op d response d')
    (htruthful : ∀ source targetRef, op = .showRef source targetRef →
      TruthfulRead d targetRef) :
    (k.after op response).Holds d' := by
  cases hperforms with
  | receipt d operationId =>
    unfold Knows.after
    cases hread : WriteOnce.read d.receipt with
    | some r => trivial
    | none =>
      cases k with
      | started => exact ⟨hread, h⟩
      | _ => trivial
  | receiptFailed d operationId e => trivial
  | intent d operationId =>
    unfold Knows.after
    cases hread : WriteOnce.read d.intent with
    | some a =>
      cases k with
      | unsettled => exact ⟨h.1, hread, h.2⟩
      | _ => trivial
    | none =>
      cases k with
      | unsettled =>
        refine ⟨h.1, hread, ?_⟩
        -- without an intent nothing took effect
        by_contra heffects
        have hsome := hadmitted (Nat.pos_of_ne_zero heffects)
        rw [hread] at hsome
        cases hsome
      | _ => trivial
  | intentFailed d operationId e => trivial
  | putIntent d admission attempt =>
    have hk : k = .fresh := hallowed
    subst hk
    obtain ⟨hreceipt, hintent, heffects⟩ := h
    cases houtcome : (WriteOnce.ensure d.intent admission attempt).2 with
    | ok => exact ⟨hreceipt, WriteOnce.ensure_ok houtcome, heffects⟩
    | conflict => trivial
    | failed => trivial
  | putReceipt d receipt attempt =>
    unfold Knows.after
    trivial
  | showRef source held => exact h.read held (htruthful _ _ rfl)
  | showRefFailed d source targetRef e => exact h
  | updated held response =>
    obtain ⟨a, rfl, -, -, -⟩ := hallowed
    exact ⟨h.1, h.2.1, rfl⟩
  | notUpdated d targetRef new old e =>
    obtain ⟨a, rfl, -, -, -⟩ := hallowed
    exact ⟨h.1, h.2.1, rfl⟩
  | outside houtside d response =>
    cases op <;> first | exact h | cases houtside

/-! ## The invariant -/

/-- **The invariant of a truthful history.** -/
structure IntegrationInv (w : IntegrationWorld) : Prop where
  admitted : Admitted w.toDesk
  sound : ∀ receipt, WriteOnce.read w.receipt = some receipt → OutcomeSound w.toDesk receipt
  /-- What runs knows what it needs. -/
  running : ∀ p, w.running = some p →
    ∃ k, k.Holds w.toDesk ∧ Proc.Keeps knowledge AnyEnd k p

theorem read_afterStop_durable {α : Type} {file : Option (WriteOnce α)} {lost : Bool}
    (h : lost = true → file.all (·.durable) = true) :
    WriteOnce.read (WriteOnce.afterStop file lost) = WriteOnce.read file := by
  cases lost with
  | false => rfl
  | true =>
    cases file with
    | none => rfl
    | some w =>
      have hdurable : w.durable = true := h rfl
      simp [WriteOnce.afterStop, Option.filter, hdurable]

section Performing

variable {d d' : Desk} {k : Knows} {op : IntegrationOp} {response : op.Resp}

theorem admitted_performed (hadmitted : Admitted d) (hholds : k.Holds d) (hallowed : k.allows op)
    (hperforms : Performs op d response d') : Admitted d' := by
  cases hperforms with
  | putIntent d admission attempt =>
    intro heffects
    obtain ⟨a, ha⟩ := Option.isSome_iff_exists.mp (hadmitted heffects)
    exact Option.isSome_iff_exists.mpr ⟨a, WriteOnce.ensure_keeps ha⟩
  | updated held response =>
    obtain ⟨a, rfl, -, -, -⟩ := hallowed
    intro _
    exact Option.isSome_iff_exists.mpr ⟨a, hholds.2.1⟩
  | receipt | receiptFailed | intent | intentFailed | putReceipt | showRef | showRefFailed
  | notUpdated | outside => exact hadmitted

/-- **Receipts tell the truth after an operation.** -/
theorem sound_performed (hholds : k.Holds d) (hallowed : k.allows op)
    (hperforms : Performs op d response d')
    (hsound : ∀ receipt, WriteOnce.read d.receipt = some receipt → OutcomeSound d receipt)
    {receipt : OperationReceipt} (hreceipt : WriteOnce.read d'.receipt = some receipt) :
    OutcomeSound d' receipt := by
  cases hperforms with
  | putReceipt d stored attempt =>
    obtain ⟨hunsettled, hwarrants⟩ := hallowed
    -- one receipt is stored, where there was none
    have hnone := hholds.unsettled hunsettled
    have hwritten : WriteOnce.read (WriteOnce.ensure d.receipt stored attempt).1 =
          WriteOnce.read d.receipt ∨
        (WriteOnce.read d.receipt = none ∧
          WriteOnce.read (WriteOnce.ensure d.receipt stored attempt).1 = some stored) :=
      WriteOnce.ensure_read
    rcases hwritten with hsame | ⟨-, hstored⟩
    · rw [hsame, hnone] at hreceipt
      cases hreceipt
    · rw [hstored] at hreceipt
      cases hreceipt
      unfold OutcomeSound
      cases hstate : receipt.state with
      | succeeded =>
        rw [hstate] at hwarrants
        obtain ⟨a, rfl, htarget, hcandidate⟩ := hwarrants
        dsimp only
        rw [htarget, hcandidate]
        exact hholds.2.2
      | failed =>
        rw [hstate] at hwarrants
        rcases hwarrants with rfl | ⟨a, rfl⟩
        · exact hholds.2.2
        · exact hholds.2.2
      | canceled =>
        rw [hstate] at hwarrants
        rcases hwarrants with rfl | ⟨a, rfl⟩
        · exact hholds.2.2
        · exact hholds.2.2
      | outcomeUnknown => trivial
      | prepared =>
        rw [hstate] at hwarrants
        exact hwarrants
  -- an update comes before any receipt
  | updated held response =>
    obtain ⟨a, rfl, -, -, -⟩ := hallowed
    rw [show WriteOnce.read d.receipt = none from hholds.1] at hreceipt
    cases hreceipt
  -- a further read only adds to what was seen
  | showRef source held =>
    have hbefore := hsound receipt hreceipt
    unfold OutcomeSound at hbefore ⊢
    cases hstate : receipt.state with
    | succeeded =>
      rw [hstate] at hbefore
      exact List.mem_append_left _ hbefore
    | failed | canceled | outcomeUnknown | prepared =>
      rw [hstate] at hbefore
      exact hbefore
  | receipt | receiptFailed | intent | intentFailed | putIntent | showRefFailed | notUpdated
  | outside => exact hsound receipt hreceipt

/-- **A settled operation** keeps its receipt and runs no update. -/
theorem settled_performed (hholds : k.Holds d) (hallowed : k.allows op)
    (hperforms : Performs op d response d') {receipt : OperationReceipt}
    (hreceipt : WriteOnce.read d.receipt = some receipt) :
    WriteOnce.read d'.receipt = some receipt ∧ d'.updates = d.updates := by
  cases hperforms with
  | putReceipt d stored attempt => exact ⟨WriteOnce.ensure_keeps hreceipt, rfl⟩
  | updated held response =>
    obtain ⟨a, rfl, -, -, -⟩ := hallowed
    rw [show WriteOnce.read d.receipt = none from hholds.1] at hreceipt
    cases hreceipt
  | notUpdated d targetRef new old e =>
    obtain ⟨a, rfl, -, -, -⟩ := hallowed
    rw [show WriteOnce.read d.receipt = none from hholds.1] at hreceipt
    cases hreceipt
  | receipt | receiptFailed | intent | intentFailed | putIntent | showRef | showRefFailed
  | outside => exact ⟨hreceipt, rfl⟩

end Performing

variable {w : IntegrationWorld}

/-- **Preserved by every truthful step.** -/
theorem integrationInv_step {label : IntegrationLabel} {w' : IntegrationWorld}
    (h : IntegrationInv w) (hok : TruthfulStep label w)
    (hstep : Step rules operationId label w w') :
    IntegrationInv w' := by
  cases hstep with
  | execute idle =>
    refine ⟨h.admitted, h.sound, ?_⟩
    intro p hp
    cases hp
    exact ⟨.started, rfl, keeps_execute operationId⟩
  | op running performs =>
    obtain ⟨k, hholds, hkeeps⟩ := h.running _ running
    refine ⟨admitted_performed h.admitted hholds hkeeps.1 performs,
      fun receipt => sound_performed hholds hkeeps.1 performs h.sound, ?_⟩
    intro p hp
    cases hp
    refine ⟨_, hholds.performed h.admitted hkeeps.1 performs ?_, hkeeps.2 _ _ rfl⟩
    rintro source targetRef rfl
    exact hok
  | returned running ended =>
    exact ⟨h.admitted, h.sound, fun p hp => by cases hp⟩
  | stop lostIntent lostReceipt =>
    refine ⟨?_, ?_, fun p hp => by cases hp⟩
    · intro heffects
      -- after an effect a stop loses no intent
      have hdurable : lostIntent = true → w.intent.all (·.durable) = true := by
        intro hlost
        rcases hok.1 hlost with hnone | hdurable
        · have hpositive : 0 < w.effects := heffects
          omega
        · exact hdurable
      show (WriteOnce.read (WriteOnce.afterStop w.intent lostIntent)).isSome = true
      rw [read_afterStop_durable hdurable]
      exact h.admitted heffects
    · intro receipt hreceipt
      refine h.sound receipt ?_
      -- a truthful stop loses no receipt
      rw [← read_afterStop_durable hok.2]
      exact hreceipt
  | move targetRef commit =>
    refine ⟨h.admitted, h.sound, ?_⟩
    intro p hp
    obtain ⟨k, hholds, hkeeps⟩ := h.running p hp
    exact ⟨k, hholds.moved _, hkeeps⟩

theorem integrationInv_reachable
    (h : ((integrationSystem rules operationId).restrict TruthfulStep).Reachable w) :
    IntegrationInv w := by
  refine System.invariant IntegrationInv ?_ ?_ h
  · rintro s ⟨hintent, hreceipt, hrunning, -, heffects, -, -⟩
    refine ⟨?_, ?_, ?_⟩
    · intro hpositive
      rw [heffects] at hpositive
      exact absurd hpositive (Nat.lt_irrefl 0)
    · intro receipt h
      rw [hreceipt] at h
      cases h
    · intro p hp
      rw [hrunning] at hp
      cases hp
  · intro label s s' hstep hs
    exact integrationInv_step hs hstep.1 hstep.2

/-- What a settled operation keeps from one world to a later one. -/
def Settled (w w' : IntegrationWorld) : Prop :=
  ∀ receipt, WriteOnce.read w.receipt = some receipt →
    WriteOnce.read w'.receipt = some receipt ∧ w'.updates = w.updates

theorem settled_step {label : IntegrationLabel} {w' : IntegrationWorld} (h : IntegrationInv w)
    (hok : TruthfulStep label w) (hstep : Step rules operationId label w w') : Settled w w' := by
  intro receipt hreceipt
  cases hstep with
  | execute idle => exact ⟨hreceipt, rfl⟩
  | op running performs =>
    obtain ⟨k, hholds, hkeeps⟩ := h.running _ running
    exact settled_performed hholds hkeeps.1 performs hreceipt
  | returned running ended => exact ⟨hreceipt, rfl⟩
  | stop lostIntent lostReceipt =>
    refine ⟨?_, rfl⟩
    show WriteOnce.read (WriteOnce.afterStop w.receipt lostReceipt) = some receipt
    rw [read_afterStop_durable hok.2]
    exact hreceipt
  | move targetRef commit => exact ⟨hreceipt, rfl⟩

/-- **Integration outcome soundness.** In every truthful history a receipt tells the truth, and
from then on it stays as it is and the update is not run again. -/
theorem integration_outcome_sound {rules : EvidenceRules} {operationId : String}
    {w w' : IntegrationWorld}
    (h : ((integrationSystem rules operationId).restrict TruthfulStep).Reachable w)
    (hs : ((integrationSystem rules operationId).restrict TruthfulStep).Steps w w') :
    (∀ receipt, WriteOnce.read w.receipt = some receipt → OutcomeSound w.toDesk receipt) ∧
      ∀ receipt, WriteOnce.read w.receipt = some receipt →
        WriteOnce.read w'.receipt = some receipt ∧ w'.updates = w.updates := by
  refine ⟨(integrationInv_reachable h).sound, ?_⟩
  refine System.along_run (R := Settled) ?_ ?_ ?_ h hs
  · exact fun s receipt hreceipt => ⟨hreceipt, rfl⟩
  · intro a b c hab hbc receipt hreceipt
    obtain ⟨hmiddle, hupdates⟩ := hab receipt hreceipt
    obtain ⟨hlast, hupdates'⟩ := hbc receipt hmiddle
    exact ⟨hlast, hupdates'.trans hupdates⟩
  · intro label s s' hreach hstep
    exact settled_step (integrationInv_reachable hreach) hstep.1 hstep.2

/-! ## An update that was killed after it took effect -/

section Sample

def sampleScope : ExecutionScope where
  planId := "plan"
  planRevision := 1
  planDigest := "digest"
  nodeKey := "node"
  roomId := "room"
  taskId := "task"
  runId := "run"
  agentId := "agent"
  deviceId := "device"

def sampleExpected : String := String.ofList (List.replicate 40 'a')

def sampleCandidate : String := String.ofList (List.replicate 40 'b')

def sampleTree : String := String.ofList (List.replicate 40 'c')

def sampleAdmission : Admission where
  operation :=
    { operationId := "op_integration_1"
      requestDigest := "request"
      plan := { planId := "plan", revision := 1, digest := "digest", roomId := "room" }
      execution := sampleScope
      repositoryId := "repository"
      bindingId := "binding"
      deviceId := "device"
      expectedGeneration := "1"
      action :=
        { candidateCommit := sampleCandidate
          candidateTree := sampleTree
          inputDigest := "input"
          target :=
            { repositoryId := "repository", targetRef := "refs/heads/release"
              expectedCommit := sampleExpected } } }
  checkpoint :=
    { checkpointId := "checkpoint"
      repositoryId := "repository"
      bindingId := "binding"
      workspaceGeneration := "1"
      candidateCommit := sampleCandidate
      candidateTree := sampleTree
      inputDigest := "input"
      scope := sampleScope }
  approvalDigest := "approval"
  admittedAt := "now"

def sampleRules : EvidenceRules where
  validOperation _ := true
  validCheckpoint _ := true
  validGrantTarget _ := true

def sampleWorld : IntegrationWorld where
  refs := Table.empty.put "refs/heads/release" sampleExpected
  intent := none
  receipt := none
  updates := 0
  effects := 0
  lastUpdate := none
  seen := []
  running := none

/-- A host on which everything goes well. -/
def sampleAnswers : (op : IntegrationOp) → op.Resp
  | .get _ => .ok sampleAdmission
  | .retain _ => .ok ()
  | .receipt _ => .ok none
  | .intent _ => .ok none
  | .putIntent _ | .putReceipt _ => .ok ()
  | .now => (1 : Nat)
  | .resolveSource .. =>
    .ok { root := "/source", gitDirectory := "/source/.git", commonDirectory := "/source/.git"
          objectFormat := .sha1 }
  | .checkIntegrationGrant .. => .ok ()
  | .contextErr => none
  | .checkOwner => .ok ()
  | .checkSource _ => .ok ()
  | .confirmedCapture _ =>
    .ok { candidateCommit := sampleCandidate, candidateTree := sampleTree }
  | .showRef .. => .ok sampleExpected
  | .targetCheckedOut .. => .ok false
  | .verifiedCapturedSource => .ok ()
  | .readCommitBundle => .ok true
  | .indexPack => .ok ()
  | .revParseTree _ => .ok sampleTree
  | .isAncestor .. => .ok ()
  | .updateRef .. => .ok ()

/-- One operation on that host. -/
def playOp (d : Desk) : (op : IntegrationOp) → Option (op.Resp × Desk)
  | .receipt _ => some (.ok (WriteOnce.read d.receipt), d)
  | .intent _ => some (.ok (WriteOnce.read d.intent), d)
  | .putIntent admission =>
    some (writeError (WriteOnce.ensure d.intent admission .synced).2,
      { d with intent := (WriteOnce.ensure d.intent admission .synced).1 })
  | .putReceipt receipt =>
    some (writeError (WriteOnce.ensure d.receipt receipt .synced).2,
      { d with receipt := (WriteOnce.ensure d.receipt receipt .synced).1 })
  | .showRef _ targetRef =>
    (d.refs.get targetRef).map fun commit =>
      (.ok commit, { d with seen := d.seen ++ [(targetRef, commit)] })
  | .updateRef targetRef new old =>
    if d.refs.get targetRef = some old then
      some (.ok (),
        { d with
          refs := d.refs.put targetRef new, updates := d.updates + 1, effects := d.effects + 1
          lastUpdate := some true })
    else none
  | op => some (sampleAnswers op, d)

theorem playOp_performs {d d' : Desk} {op : IntegrationOp} {response : op.Resp}
    (h : playOp d op = some (response, d')) : Performs op d response d' := by
  cases op with
  | showRef source targetRef =>
    obtain ⟨commit, hheld, hanswer⟩ := Option.map_eq_some_iff.mp h
    cases hanswer
    exact .showRef source hheld
  | updateRef targetRef new old =>
    obtain ⟨hheld, hanswer⟩ := Option.ite_none_right_eq_some.mp h
    cases hanswer
    exact .updated hheld (.ok ())
  | receipt operationId => cases h; exact .receipt d operationId
  | intent operationId => cases h; exact .intent d operationId
  | putIntent admission => cases h; exact .putIntent d admission .synced
  | putReceipt receipt => cases h; exact .putReceipt d receipt .synced
  | _ => cases h; exact .outside rfl _ _

/-- At most `n` operations of what is running. -/
def play : Nat → IntegrationWorld → IntegrationWorld
  | 0, w => w
  | n + 1, w =>
    match w.running with
    | some (.call op k) =>
      match playOp w.toDesk op with
      | some (response, d) => play n { toDesk := d, running := some (k response) }
      | none => w
    | _ => w

variable {w : IntegrationWorld}

theorem play_keeps {P : IntegrationWorld → Prop}
    (hstep : ∀ (w : IntegrationWorld) (op : IntegrationOp)
      (k : op.Resp → IntegrationProg OperationReceipt) (response : op.Resp) (d : Desk), P w →
      w.running = some (.call op k) → playOp w.toDesk op = some (response, d) →
      P { toDesk := d, running := some (k response) }) (n : Nat) (h : P w) : P (play n w) := by
  induction n generalizing w with
  | zero => exact h
  | succ n ih =>
    unfold play
    split
    · rename_i op k hrunning
      split
      · rename_i response d hanswer
        exact ih (hstep w op k response d h hrunning hanswer)
      · exact h
    · exact h

theorem reachable_play (n : Nat) (h : (integrationSystem rules operationId).Reachable w) :
    (integrationSystem rules operationId).Reachable (play n w) :=
  play_keeps (fun w op _ response _ hw hrunning hanswer => System.reachable_step hw
    (show Step rules operationId (.op op response) w _ from
      .op hrunning (playOp_performs hanswer))) n h

/-- No update took effect, or the last one answered well. -/
def Desk.Calm (d : Desk) : Prop := d.effects = 0 ∨ d.lastUpdate = some true

theorem Desk.Calm.truthful {d : Desk} (h : d.Calm) (targetRef : String) :
    TruthfulRead d targetRef := by
  intro heffects _ _ _
  obtain hzero | hwell := h
  · omega
  · rw [hwell]
    trivial

theorem Desk.Calm.played {d d' : Desk} {op : IntegrationOp} {response : op.Resp} (h : d.Calm)
    (hanswer : playOp d op = some (response, d')) : d'.Calm := by
  cases op with
  | showRef source targetRef =>
    obtain ⟨commit, -, hanswer⟩ := Option.map_eq_some_iff.mp hanswer
    cases hanswer
    exact h
  | updateRef targetRef new old =>
    obtain ⟨-, hanswer⟩ := Option.ite_none_right_eq_some.mp hanswer
    cases hanswer
    exact .inr rfl
  | _ =>
    cases hanswer
    exact h

/-- From a calm world the host that does well plays truthfully. -/
theorem truthful_play (n : Nat)
    (h : ((integrationSystem rules operationId).restrict TruthfulStep).Reachable w)
    (hcalm : w.toDesk.Calm) :
    ((integrationSystem rules operationId).restrict TruthfulStep).Reachable (play n w) := by
  refine (play_keeps (P := fun w => _ ∧ w.toDesk.Calm) ?_ n ⟨h, hcalm⟩).1
  intro w op k response d hw hrunning hanswer
  have htruthful : TruthfulStep (.op op response) w := by
    cases op with
    | showRef source targetRef => exact hw.2.truthful targetRef
    | _ => trivial
  exact ⟨System.reachable_step hw.1 ⟨htruthful, .op hrunning (playOp_performs hanswer)⟩,
    hw.2.played hanswer⟩

/-- The update takes effect and is killed; before the ref is inspected somebody moves it. -/
def sampleKilled (w : IntegrationWorld) : Option IntegrationWorld :=
  match w.running with
  | some (.call (.updateRef targetRef new old) k) =>
    if w.refs.get targetRef = some old then
      some
        { refs := (w.refs.put targetRef new).put targetRef sampleTree
          intent := w.intent
          receipt := w.receipt
          updates := w.updates + 1
          effects := w.effects + 1
          lastUpdate := some false
          seen := w.seen
          running := some (k (.error .other)) }
    else none
  | _ => none

theorem reachable_sampleKilled {w' : IntegrationWorld}
    (h : (integrationSystem rules operationId).Reachable w) (hkilled : sampleKilled w = some w') :
    (integrationSystem rules operationId).Reachable w' := by
  unfold sampleKilled at hkilled
  split at hkilled
  · rename_i targetRef new old k hrunning
    split at hkilled
    · rename_i hheld
      cases hkilled
      have hupdated := System.reachable_step h
        (show Step rules operationId _ w _ from
          .op hrunning (.updated hheld (.error HostError.other)))
      exact System.reachable_step hupdated
        (show Step rules operationId _ _ _ from .move targetRef (some sampleTree))
    · cases hkilled
  · cases hkilled

/-- `Execute` to its end; its update, after 22 operations, is killed. -/
def sampleRun : Option IntegrationWorld :=
  (sampleKilled (play 22
    { sampleWorld with
      running := some (Coordinator.execute sampleRules "op_integration_1") })).map (play 40)

theorem reachable_sampleRun (h : sampleRun = some w) :
    (integrationSystem sampleRules "op_integration_1").Reachable w := by
  obtain ⟨w₁, hkilled, rfl⟩ := Option.map_eq_some_iff.mp h
  have hinit : (integrationSystem sampleRules "op_integration_1").Reachable sampleWorld :=
    System.reachable_init ⟨rfl, rfl, rfl, rfl, rfl, rfl, rfl⟩
  have hstarted := System.reachable_step hinit
    (show Step sampleRules "op_integration_1" .execute sampleWorld _ from .execute rfl)
  exact reachable_play 40 (reachable_sampleKilled (reachable_play 22 hstarted) hkilled)

end Sample

/-- A killed update whose ref was moved on is reported as failed. -/
theorem killed_update_reported_failed :
    ¬∀ (rules : EvidenceRules) (operationId : String) (w w' : IntegrationWorld),
      (integrationSystem rules operationId).Reachable w →
      (integrationSystem rules operationId).Steps w w' →
      (∀ receipt, WriteOnce.read w.receipt = some receipt → OutcomeSound w.toDesk receipt) ∧
        ∀ receipt, WriteOnce.read w.receipt = some receipt →
          WriteOnce.read w'.receipt = some receipt ∧ w'.updates = w.updates := by
  intro hall
  have hsample : sampleRun.bind (fun w => (WriteOnce.read w.receipt).map fun receipt =>
      (receipt.state, w.effects)) = some (.failed, 1) := by decide +kernel
  obtain ⟨w, hrun, hsettled⟩ := Option.bind_eq_some_iff.mp hsample
  obtain ⟨receipt, hreceipt, hpair⟩ := Option.map_eq_some_iff.mp hsettled
  obtain ⟨hstate, heffects⟩ := Prod.mk.inj hpair
  have hsound := (hall _ _ w w (reachable_sampleRun hrun) .refl).1 receipt hreceipt
  rw [OutcomeSound, hstate] at hsound
  dsimp only at hsound
  omega

/-- Where all goes well the target is read twice and then updated: the receipt says so. -/
theorem integration_outcome_sound_updated :
    ∃ (w : IntegrationWorld) (receipt : OperationReceipt),
      WriteOnce.read w.receipt = some receipt ∧ receipt.state = .succeeded ∧ w.updates = 1 ∧
        w.seen.length = 2 ∧ OutcomeSound w.toDesk receipt := by
  have hinit : ((integrationSystem sampleRules "op_integration_1").restrict
      TruthfulStep).Reachable sampleWorld :=
    System.reachable_init ⟨rfl, rfl, rfl, rfl, rfl, rfl, rfl⟩
  have hstarted := System.reachable_step (i := IntegrationLabel.execute) hinit
    ⟨trivial, Step.execute rfl⟩
  have hplayed := truthful_play 40 hstarted (.inl rfl)
  generalize hw : play 40 _ = w at hplayed
  have hsample : (WriteOnce.read w.receipt).map (fun receipt =>
      (receipt.state, w.updates, w.seen.length)) = some (.succeeded, 1, 2) := by
    rw [← hw]
    decide +kernel
  obtain ⟨receipt, hreceipt, hsettled⟩ := Option.map_eq_some_iff.mp hsample
  simp only [Prod.mk.injEq] at hsettled
  exact ⟨w, receipt, hreceipt, hsettled.1, hsettled.2.1, hsettled.2.2,
    (integration_outcome_sound hplayed .refl).1 receipt hreceipt⟩

end AgentRoom.Integration
