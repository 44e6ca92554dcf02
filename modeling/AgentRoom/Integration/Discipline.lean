import AgentRoom.Integration.Coordinator

/-!
# What an execution knows

A phase says what an execution knows of its operation: that it has no receipt,
which admission its intent holds, whether its update can have taken effect, what
the update answered. The update is run, and a receipt is stored, only in the
phases that warrant it.
-/

namespace AgentRoom.Integration

/-- **What is known.** -/
inductive Knows where
  | nothing
  /-- This execution has run no update. -/
  | started
  /-- Nor is there a receipt. -/
  | unsettled
  /-- Nor an intent. -/
  | fresh
  /-- The intent holds the admission. -/
  | admitted (admission : Admission)
  /-- And the update took no effect so far. -/
  | clear (admission : Admission)
  /-- The update answered, well or not. -/
  | attempted (admission : Admission) (well : Bool)
  /-- The ref was read and held the candidate. -/
  | held (admission : Admission)

namespace Knows

/-- The operation is known to have no receipt. -/
def isUnsettled : Knows → Bool
  | .nothing | .started => false
  | _ => true

/-- A receipt may be stored: there is none, and it says no more than what is known. -/
def warrants (k : Knows) (receipt : OperationReceipt) : Prop :=
  k.isUnsettled = true ∧
    match receipt.state with
    | .succeeded => ∃ a, k = .held a ∧
        receipt.target.targetRef = a.operation.action.target.targetRef ∧
        receipt.candidateCommit = a.operation.action.candidateCommit
    | .failed | .canceled => k = .fresh ∨ ∃ a, k = .clear a
    | .outcomeUnknown => True
    | .prepared => False

/-- What an operation may be performed with. -/
def allows (k : Knows) : IntegrationOp → Prop
  | .updateRef targetRef new old => ∃ a, k = .clear a ∧
      targetRef = a.operation.action.target.targetRef ∧
      new = a.operation.action.candidateCommit ∧
      old = a.operation.action.target.expectedCommit
  | .putIntent _ => k = .fresh
  | .putReceipt receipt => k.warrants receipt
  | _ => True

def afterRead (k : Knows) (targetRef commit : String) : Knows :=
  match k with
  | .admitted a =>
    if targetRef ≠ a.operation.action.target.targetRef then k
    else if commit = a.operation.action.candidateCommit then .held a
    else if commit = a.operation.action.target.expectedCommit then .clear a
    else k
  | .attempted a well =>
    if targetRef ≠ a.operation.action.target.targetRef then k
    else if commit = a.operation.action.candidateCommit then .held a
    else if well then k
    else .clear a
  | k => k

/-- What is known after an operation was answered. -/
def after (k : Knows) : (op : IntegrationOp) → op.Resp → Knows
  | .receipt _, .ok none => if k matches .started then .unsettled else .nothing
  | .receipt _, _ => .nothing
  | .intent _, .ok none => if k matches .unsettled then .fresh else .nothing
  | .intent _, .ok (some a) => if k matches .unsettled then .admitted a else .nothing
  | .intent _, .error _ => .nothing
  | .putIntent a, .ok () => .clear a
  | .putIntent _, .error _ => .nothing
  | .putReceipt _, _ => .nothing
  | .showRef _ targetRef, .ok commit => k.afterRead targetRef commit
  | .updateRef .., response =>
    match k with
    | .clear a => .attempted a response.isOk
    | _ => .nothing
  | _, _ => k

end Knows

/-- **The discipline of an execution.** -/
def knowledge : Proc.Discipline integrationInterface Knows where
  allowed := Knows.allows
  next k op response k' := k' = k.after op response

/-! ## Programs that keep it -/

section Programs

open Preparer Coordinator

variable {rules : EvidenceRules} {k : Knows} {α : Type}
  {Q : Knows → Except IntegrationError α → Prop}

theorem keeps_unwatched {op : IntegrationOp} {f : op.Resp → IntegrationProg α}
    (hallowed : k.allows op) (hsame : ∀ r, k.after op r = k)
    (h : ∀ r, Proc.Keeps knowledge Q k (f r)) :
    Proc.Keeps knowledge Q k (.call op f : IntegrationProg α) := by
  refine Proc.keeps_call hallowed ?_
  intro r k' hnext
  have hk : k' = k := hnext.trans (hsame r)
  rw [hk]
  exact h r

def Stays (k : Knows) {α : Type} (k' : Knows) (_ : Except IntegrationError α) : Prop := k' = k

theorem stays_bind {β : Type} {x : IntegrationProg β} {f : β → IntegrationProg α}
    (hx : Proc.Keeps knowledge (Stays k) k x)
    (hf : ∀ b, Proc.Keeps knowledge (Stays k) k (f b)) :
    Proc.Keeps knowledge (Stays k) k (x.bind f) := by
  refine Proc.keeps_bind hx ?_ ?_
  · rintro k' b rfl
    exact hf b
  · rintro k' e rfl
    rfl

/-- The program fails and leaves everything as known. -/
def Fails (k : Knows) {α : Type} (k' : Knows) (r : Except IntegrationError α) : Prop :=
  k' = k ∧ ∃ e, r = .error e

theorem fails_integrationContextError (err : HostError) :
    Proc.Keeps knowledge (Fails k) k (integrationContextError err : IntegrationProg α) := by
  refine keeps_unwatched trivial (fun _ => rfl) ?_
  intro ended
  cases ended <;> exact ⟨rfl, _, rfl⟩

theorem stays_integrationContextError (err : HostError) :
    Proc.Keeps knowledge (Stays k) k (integrationContextError err : IntegrationProg α) :=
  (fails_integrationContextError err).mono fun _ _ h => h.1

theorem stays_orContext (r : Except HostError α) :
    Proc.Keeps knowledge (Stays k) k (orContext r) := by
  cases r with
  | ok a => rfl
  | error err => exact stays_integrationContextError err

/-- What reading the target returns, and what is known then. -/
def Reads (k : Knows) (targetRef : String) (k' : Knows) : Except IntegrationError String → Prop
  | .ok commit => k' = k.afterRead targetRef commit
  | .error _ => k' = k

theorem reads_integrationTarget (source : Source) (targetRef : String) :
    Proc.Keeps knowledge (Reads k targetRef) k (integrationTarget source targetRef) := by
  refine keeps_unwatched trivial (fun _ => rfl) ?_
  intro checked
  cases checked with
  | error err =>
    refine (fails_integrationContextError err).mono ?_
    rintro k' r ⟨rfl, e, rfl⟩
    rfl
  | ok u =>
    refine Proc.keeps_call trivial ?_
    rintro shown k' rfl
    cases shown with
    | error err => rfl
    | ok commit => rfl

/-- The target is read and the program goes on with what came of it. -/
theorem keeps_read {source : Source} {targetRef : String}
    {f : Except IntegrationError String → IntegrationProg α}
    (hok : ∀ commit, Proc.Keeps knowledge Q (k.afterRead targetRef commit) (f (.ok commit)))
    (herror : ∀ e, Proc.Keeps knowledge Q k (f (.error e))) :
    Proc.Keeps knowledge Q k ((integrationTarget source targetRef).attempt.bind f) := by
  refine Proc.keeps_bind
    (S := fun k' r => ∃ r', r = .ok r' ∧ Reads k targetRef k' r')
    (Proc.keeps_attempt (reads_integrationTarget source targetRef) ?_) ?_ ?_
  · intro k' r hreads
    exact ⟨r, rfl, hreads⟩
  · rintro k' b ⟨r, hr, hreads⟩
    cases hr
    cases b with
    | error e =>
      rw [show k' = k from hreads]
      exact herror e
    | ok commit =>
      rw [show k' = _ from hreads]
      exact hok commit
  · rintro k' e ⟨r, hr, -⟩
    cases hr

/-! ## Before the update -/

section Clear

variable {a : Admission}

theorem stays_requireContext : Proc.Keeps knowledge (Stays k) k requireContext := by
  refine keeps_unwatched trivial (fun _ => rfl) ?_
  intro ended
  cases ended <;> rfl

theorem stays_requireNotCheckedOut (source : Source) (targetRef : String) :
    Proc.Keeps knowledge (Stays k) k (requireNotCheckedOut source targetRef) := by
  refine keeps_unwatched trivial (fun _ => rfl) fun listed => ?_
  refine stays_bind (stays_orContext listed) ?_
  intro checkedOut
  split <;> rfl

theorem stays_requireCapture (checkpoint : RepositoryCheckpoint) (action : IntegrateAction) :
    Proc.Keeps knowledge (Stays k) k (requireCapture checkpoint action) := by
  refine keeps_unwatched trivial (fun _ => rfl) fun confirmed => ?_
  refine stays_bind (stays_orContext confirmed) ?_
  intro captured
  split <;> rfl

theorem stays_requireFastForward (action : IntegrateAction) :
    Proc.Keeps knowledge (Stays k) k (requireFastForward action) := by
  unfold requireFastForward
  split
  · rfl
  · refine keeps_unwatched trivial (fun _ => rfl) fun descends => ?_
    cases descends with
    | ok u => rfl
    | error e =>
      refine keeps_unwatched trivial (fun _ => rfl) fun ended => ?_
      cases ended <;> rfl

theorem stays_importCandidate (source : Source) (action : IntegrateAction) :
    Proc.Keeps knowledge (Stays k) k (importCandidate source action) := by
  refine keeps_unwatched trivial (fun _ => rfl) fun sealedSource => ?_
  refine stays_bind (stays_orContext sealedSource) fun _ => ?_
  refine keeps_unwatched trivial (fun _ => rfl) fun bundle => ?_
  refine stays_bind (stays_orContext bundle) fun wellFormed => ?_
  split
  · rfl
  · refine keeps_unwatched trivial (fun _ => rfl) fun indexed => ?_
    refine stays_bind (stays_orContext indexed) fun _ => ?_
    refine keeps_unwatched trivial (fun _ => rfl) fun checked => ?_
    refine stays_bind (stays_orContext checked) fun _ => ?_
    refine keeps_unwatched trivial (fun _ => rfl) fun parsed => ?_
    refine stays_bind (stays_orContext parsed) fun tree => ?_
    split <;> rfl

theorem stays_requireExpected (source : Source) (action : IntegrateAction) :
    Proc.Keeps knowledge (Stays (.clear a)) (.clear a) (requireExpected source action) := by
  refine keeps_read ?_ ?_
  · intro commit
    dsimp only [Knows.afterRead]
    split <;> rfl
  · exact fun e => rfl

theorem validateIntegrationEvidence_action {operation : RepositoryOperation}
    {checkpoint : RepositoryCheckpoint} {action : IntegrateAction}
    (h : validateIntegrationEvidence rules operation checkpoint = .ok action) :
    action = operation.action := by
  unfold validateIntegrationEvidence at h
  dsimp only at h
  split at h
  · cases h
  · split at h
    · cases h
    · cases h
      rfl

/-- What the checks before the update leave. -/
def Checked (a : Admission) (k' : Knows) (r : Except IntegrationError IntegrateAction) : Prop :=
  k' = .clear a ∧ ∀ action, r = .ok action → action = a.operation.action

/-- **Nothing before the update** changes what is known. -/
theorem checked_checkExactTarget (source : Source) :
    Proc.Keeps knowledge (Checked a) (.clear a)
      (checkExactTarget rules source a.operation a.checkpoint) := by
  have hfail : ∀ e : IntegrationError,
      Proc.Keeps knowledge (Checked a) (.clear a) (.fail e : IntegrationProg IntegrateAction) :=
    fun e => ⟨rfl, fun action h => by cases h⟩
  refine keeps_unwatched trivial (fun _ => rfl) fun owner => ?_
  cases owner with
  | error err => exact hfail _
  | ok u =>
    cases hvalid : validateIntegrationEvidence rules a.operation a.checkpoint with
    | error e => exact hfail e
    | ok action =>
      have haction := validateIntegrationEvidence_action hvalid
      show Proc.Keeps knowledge (Checked a) (.clear a) (if _ then _ else _)
      split
      · exact hfail _
      · refine keeps_unwatched trivial (fun _ => rfl) fun checked => ?_
        -- each check stays where it is; the last one returns the action
        have hnext : ∀ {β : Type} {x : IntegrationProg β}
            {f : β → IntegrationProg IntegrateAction},
            Proc.Keeps knowledge (Stays (.clear a)) (.clear a) x →
            (∀ b, Proc.Keeps knowledge (Checked a) (.clear a) (f b)) →
            Proc.Keeps knowledge (Checked a) (.clear a) (x.bind f) := by
          intro β x f hx hf
          refine Proc.keeps_bind hx ?_ ?_
          · rintro k' b rfl
            exact hf b
          · rintro k' e rfl
            exact ⟨rfl, fun action h => by cases h⟩
        refine hnext (stays_orContext checked) fun _ => ?_
        refine hnext (stays_requireCapture _ _) fun _ => ?_
        refine hnext (stays_requireExpected _ _) fun _ => ?_
        refine hnext (stays_requireNotCheckedOut _ _) fun _ => ?_
        refine hnext (stays_importCandidate _ _) fun _ => ?_
        refine hnext (stays_requireFastForward _) fun _ => ?_
        refine hnext (stays_requireNotCheckedOut _ _) fun _ => ?_
        refine hnext stays_requireContext fun _ => ?_
        refine ⟨rfl, ?_⟩
        intro action' h
        cases h
        exact haction

/-! ## The update -/

/-- **What an update that returned leaves**: success was read from the ref, and any failure but an
unknown outcome means that the update took no effect. -/
def Settles (a : Admission) (k' : Knows) : Except IntegrationError String → Prop
  | .ok _ => k' = .held a
  | .error e => k' = .clear a ∨ (e = .outcomeUnknown ∧ k'.isUnsettled = true)

theorem settles_updateTarget (source : Source) :
    Proc.Keeps knowledge (Settles a) (.clear a) (updateTarget source a.operation.action) := by
  refine Proc.keeps_call ⟨a, rfl, rfl, rfl, rfl⟩ ?_
  rintro updated k' rfl
  cases updated with
  | ok u =>
    refine keeps_read ?_ ?_
    · intro commit
      show Proc.Keeps knowledge (Settles a)
        (if _ then _ else if commit = _ then .held a else .attempted a true) _
      rw [if_neg (not_not_intro rfl)]
      by_cases hcandidate : commit = a.operation.action.candidateCommit
      · rw [if_pos hcandidate]
        show Proc.Keeps _ _ _ (if _ then _ else _)
        rw [if_neg (not_not_intro hcandidate)]
        rfl
      · rw [if_neg hcandidate]
        show Proc.Keeps _ _ _ (if _ then _ else _)
        rw [if_pos hcandidate]
        exact .inr ⟨rfl, rfl⟩
    · intro e
      exact .inr ⟨rfl, rfl⟩
  | error updateErr =>
    refine keeps_read ?_ ?_
    · intro commit
      show Proc.Keeps knowledge (Settles a)
        (if _ then _ else if commit = _ then .held a else .clear a) _
      rw [if_neg (not_not_intro rfl)]
      by_cases hcandidate : commit = a.operation.action.candidateCommit
      · rw [if_pos hcandidate]
        show Proc.Keeps _ _ _ (if _ then _ else _)
        rw [if_pos hcandidate]
        rfl
      · rw [if_neg hcandidate]
        show Proc.Keeps _ _ _ (if _ then _ else _)
        rw [if_neg hcandidate]
        split <;> exact .inl rfl
    · intro e
      exact .inr ⟨rfl, rfl⟩

/-- **`IntegrateExactTarget` settles.** -/
theorem settles_integrateExactTarget (source : Source) :
    Proc.Keeps knowledge (Settles a) (.clear a)
      (integrateExactTarget rules source a.operation a.checkpoint) := by
  refine Proc.keeps_bind (checked_checkExactTarget source) ?_ ?_
  · rintro k' action ⟨rfl, haction⟩
    rw [haction action rfl]
    exact settles_updateTarget source
  · rintro k' e ⟨rfl, -⟩
    exact .inl rfl

end Clear

/-! ## The coordinator -/

section Coordinator

/-- Nothing is asked of how an execution ends. -/
def AnyEnd (_ : Knows) (_ : Except IntegrationError OperationReceipt) : Prop := True

theorem keeps_retain (receipt : OperationReceipt) :
    Proc.Keeps knowledge AnyEnd k (retain receipt) := by
  refine keeps_unwatched trivial (fun _ => rfl) fun retained => ?_
  cases retained <;> trivial

theorem keeps_retainTerminal {admission : Admission} {state : ReceiptState} {errorCode : String}
    {now : Nat} (h : k.warrants (terminalReceipt admission state errorCode now)) :
    Proc.Keeps knowledge AnyEnd k (retainTerminal admission state errorCode now) := by
  refine Proc.keeps_call h ?_
  intro stored k' _
  cases stored with
  | error e => trivial
  | ok u => exact keeps_retain _

variable {receipt : OperationReceipt}

theorem warrants_unknown (hk : k.isUnsettled = true) (h : receipt.state = .outcomeUnknown) :
    k.warrants receipt := by
  refine ⟨hk, ?_⟩
  rw [h]
  trivial

variable {a : Admission}

theorem warrants_clear (h : receipt.state = .failed ∨ receipt.state = .canceled) :
    (Knows.clear a).warrants receipt := by
  refine ⟨rfl, ?_⟩
  rcases h with h | h
  · rw [h]
    exact .inr ⟨a, rfl⟩
  · rw [h]
    exact .inr ⟨a, rfl⟩

theorem warrants_held (a : Admission) (errorCode : String) (now : Nat) :
    (Knows.held a).warrants (terminalReceipt a .succeeded errorCode now) :=
  ⟨rfl, a, rfl, rfl, rfl⟩

theorem integrationFailure_state (e : IntegrationError) :
    (e = .outcomeUnknown ∧ (integrationFailure e).1 = .outcomeUnknown) ∨
      (integrationFailure e).1 = .failed ∨ (integrationFailure e).1 = .canceled := by
  cases e <;> decide

theorem keeps_retainUpdate {r : Except IntegrationError String} (h : Settles a k r) :
    Proc.Keeps knowledge AnyEnd k (retainUpdate a r) := by
  refine keeps_unwatched trivial (fun _ => rfl) fun now => ?_
  cases r with
  | ok commit =>
    rw [show k = .held a from h]
    exact keeps_retainTerminal (warrants_held a "" now)
  | error e =>
    refine keeps_retainTerminal ?_
    rcases h with rfl | ⟨rfl, hk⟩
    · rcases integrationFailure_state e with ⟨-, hstate⟩ | hstate
      · exact warrants_unknown rfl hstate
      · exact warrants_clear hstate
    · exact warrants_unknown hk rfl

/-- **`executeCAS`**, once the intent is there and the update took no effect. -/
theorem keeps_executeCAS (a : Admission) (source : Source) (now : Nat) :
    Proc.Keeps knowledge AnyEnd (.clear a) (executeCAS rules a source now) := by
  refine keeps_unwatched trivial (fun _ => rfl) fun granted => ?_
  cases granted with
  | error e => exact keeps_retainTerminal (warrants_clear (.inl rfl))
  | ok u =>
    refine Proc.keeps_bind
      (S := fun k' r => ∃ r', r = .ok r' ∧ Settles a k' r')
      (Proc.keeps_attempt (settles_integrateExactTarget source) ?_) ?_ ?_
    · intro k' r hsettles
      exact ⟨r, rfl, hsettles⟩
    · rintro k' b ⟨r, hr, hsettles⟩
      cases hr
      exact keeps_retainUpdate hsettles
    · rintro k' e ⟨r, hr, -⟩
      cases hr

theorem reads_inspectIntegrationTarget (source : Source) (targetRef : String) :
    Proc.Keeps knowledge (Reads k targetRef) k
      (inspectIntegrationTarget rules source targetRef) := by
  unfold inspectIntegrationTarget
  split
  · rfl
  · refine keeps_unwatched trivial (fun _ => rfl) fun owner => ?_
    cases owner with
    | error err => rfl
    | ok u => exact reads_integrationTarget source targetRef

/-- **`recoverOrExecute`**, of an operation whose intent is there. -/
theorem keeps_recoverOrExecute (a : Admission) (source : Except IntegrationError Source)
    (now : Nat) :
    Proc.Keeps knowledge AnyEnd (.admitted a) (recoverOrExecute rules a source now) := by
  cases source with
  | error e => exact keeps_retainTerminal (warrants_unknown rfl rfl)
  | ok source =>
    refine Proc.keeps_bind
      (S := fun k' r => ∃ r', r = .ok r' ∧
        Reads (.admitted a) a.operation.action.target.targetRef k' r')
      (Proc.keeps_attempt (reads_inspectIntegrationTarget source _) ?_) ?_ ?_
    · intro k' r hreads
      exact ⟨r, rfl, hreads⟩
    · rintro k' b ⟨r, hr, hreads⟩
      cases hr
      cases b with
      | error e =>
        rw [show k' = _ from hreads]
        exact keeps_retainTerminal (warrants_unknown rfl rfl)
      | ok current =>
        have hk : k' = if current = a.operation.action.candidateCommit then .held a
            else if current = a.operation.action.target.expectedCommit then .clear a
            else .admitted a := by
          rw [show k' = _ from hreads]
          simp only [Knows.afterRead, ne_eq, not_true, if_false]
        rw [hk]
        dsimp only
        by_cases hcandidate : current = a.operation.action.candidateCommit
        · rw [if_pos hcandidate, if_pos hcandidate]
          exact keeps_retainTerminal (warrants_held a "" now)
        · rw [if_neg hcandidate, if_neg hcandidate]
          by_cases hexpected : current = a.operation.action.target.expectedCommit
          · rw [if_pos hexpected, if_neg (not_not_intro hexpected)]
            exact keeps_executeCAS a source now
          · rw [if_neg hexpected, if_pos hexpected]
            exact keeps_retainTerminal (warrants_unknown rfl rfl)
    · rintro k' e ⟨r, hr, -⟩
      cases hr

/-- **`Execute` of an operation without an intent.** -/
theorem keeps_admitAndExecute (a : Admission) (source : Except IntegrationError Source)
    (now : Nat) : Proc.Keeps knowledge AnyEnd .fresh (admitAndExecute rules a source now) := by
  have hfailed : Proc.Keeps knowledge AnyEnd .fresh
      (retainTerminal a .failed "INTEGRATION_LOCAL_AUTHORITY_UNAVAILABLE" now) :=
    keeps_retainTerminal ⟨rfl, .inl rfl⟩
  cases source with
  | error e => exact hfailed
  | ok source =>
    refine keeps_unwatched trivial (fun _ => rfl) fun granted => ?_
    cases granted with
    | error e => exact hfailed
    | ok u =>
      refine Proc.keeps_call rfl ?_
      rintro stored k' rfl
      cases stored with
      | error e => trivial
      | ok u => exact keeps_executeCAS a source now

/-- **`Execute`** keeps the discipline. -/
theorem keeps_execute (operationId : String) :
    Proc.Keeps knowledge AnyEnd .started (execute rules operationId) := by
  refine keeps_unwatched trivial (fun _ => rfl) fun got => ?_
  cases got with
  | error e => trivial
  | ok admission =>
    refine Proc.keeps_call trivial ?_
    rintro read k' rfl
    cases read with
    | error e => trivial
    | ok receipt =>
      cases receipt with
      | some receipt => exact keeps_retain receipt
      | none =>
        refine Proc.keeps_call trivial ?_
        rintro read k' rfl
        cases read with
        | error e => trivial
        | ok intent =>
          show Proc.Keeps _ _ _ (executeUnsettled rules admission intent)
          unfold executeUnsettled
          split
          · trivial
          · rename_i hsame
            refine keeps_unwatched (by cases intent <;> trivial)
              (fun _ => by cases intent <;> rfl) fun now => ?_
            split
            · trivial
            · refine keeps_unwatched (by cases intent <;> trivial)
                (fun _ => by cases intent <;> rfl) fun source => ?_
              cases intent with
              | none => exact keeps_admitAndExecute admission source now
              | some a =>
                have ha : a = admission := by simpa using hsame
                subst ha
                exact keeps_recoverOrExecute a source now

end Coordinator

end Programs

end AgentRoom.Integration
