import AgentRoom.Hosted.Scheduler

/-!
# What a scheduler program may do

A program that runs one Run starts `clear`. Only its own `markDispatching`, answered with
`dispatching`, takes it to `fenced`; only a fenced program may send, and it may send once.
A program that is clear ends Runs or leaves them alone. Every program of the scheduler
keeps to this, whatever it is answered.
-/

namespace AgentRoom.Hosted

open Proc

/-- How far the program has taken its Run. -/
inductive Phase where
  | clear | fenced | sent
  deriving DecidableEq

/-- The event ends the Run it is applied to, or leaves its state alone. -/
def EndsOnly (event : RuntimeEvent) : Prop :=
  ∀ s, event.nextState s = s ∨ (event.nextState s).terminal = true

def mayRun (own : Option RunId) (p : Phase) : Transaction → Prop
  | .applyEvent id event _ => EndsOnly event ∨ (p ≠ .clear ∧ own = some id)
  | .markDispatching id _ => p = .clear ∧ own = some id
  | _ => True

def allowed (own : Option RunId) (p : Phase) : Op → Prop
  | .transaction t => mayRun own p t
  | .send id => p = .fenced ∧ own = some id
  | _ => True

def nextPhase (p : Phase) : (op : Op) → op.Resp → Phase
  | .transaction (.markDispatching _ _), .ok row => if row.state = .dispatching then .fenced else p
  | .send _, _ => .sent
  | _, _ => p

/-- A Run that is read is the one that was asked for. -/
def credible : (op : Op) → op.Resp → Prop
  | .transaction (.getRun id), .ok (some run) => run.runId = id
  | _, _ => True

/-- **The discipline** of a program that runs `own`, or of one that runs no Run. -/
def discipline (own : Option RunId) : Discipline hostedInterface Phase where
  allowed := allowed own
  next p op r q := q = nextPhase p op r ∧ credible op r

/-- The program is fine in phase `p` and stays in it. -/
def Stays {α : Type} (own : Option RunId) (p : Phase) (x : Prog α) : Prop :=
  Keeps (discipline own) (fun q _ => q = p) p x

section Rules

variable {α β : Type} {own : Option RunId} {p : Phase} {x : Prog α} {f : α → Prog β}

theorem stays_ret (a : α) : Stays own p (.ret a : Prog α) := rfl

theorem stays_fail (message : String) : Stays own p (fail message : Prog α) := rfl

theorem stays_ofExcept (r : Except Failure α) : Stays own p (.ofExcept r : Prog α) := by
  cases r with
  | ok a => exact rfl
  | error e => exact rfl

theorem stays_bind (hx : Stays own p x) (hf : ∀ a, Stays own p (f a)) :
    Stays own p (x >>= f) :=
  keeps_bind hx (fun q a hq => by rw [hq]; exact hf a) fun _ _ hq => hq

theorem stays_ite {c : Prop} [Decidable c] {x y : Prog α} (hx : c → Stays own p x)
    (hy : ¬c → Stays own p y) : Stays own p (if c then x else y) := by
  split
  · next hc => exact hx hc
  · next hc => exact hy hc

theorem stays_attempt (hx : Stays own p x) : Stays own p x.attempt :=
  keeps_attempt hx fun _ _ hq => hq

theorem stays_call {op : Op} {k : op.Resp → Prog α} (ha : allowed own p op)
    (hn : ∀ r, nextPhase p op r = p) (hk : ∀ r, credible op r → Stays own p (k r)) :
    Stays own p (.call op k : Prog α) :=
  keeps_call ha fun r q hq => by
    obtain ⟨rfl, hr⟩ := hq
    rw [hn r]
    exact hk r hr

theorem stays_transaction {t : Transaction} (ha : mayRun own p t)
    (hn : ∀ r, nextPhase p (.transaction t) r = p) : Stays own p (transaction t) :=
  stays_call ha hn fun r _ => by
    cases r with
    | ok a => exact rfl
    | error e => exact rfl

theorem stays_getRun {id : RunId} {f : Option RunRecord → Prog β} (hnone : Stays own p (f none))
    (hsome : ∀ run, run.runId = id → Stays own p (f (some run))) :
    Stays own p (transaction (.getRun id) >>= f) :=
  @stays_call _ own p (.transaction (.getRun id)) _ trivial (fun _ => rfl) fun r hr => by
    match r, hr with
    | .ok none, _ => exact hnone
    | .ok (some run), hr => exact hsome run hr
    | .error e, _ => exact rfl

theorem stays_clock : Stays own p clock := stays_call trivial (fun _ => rfl) fun _ _ => rfl

theorem stays_notify (run : RunRecord) : Stays own p (notifyTerminal run) :=
  stays_call trivial (fun _ => rfl) fun r _ => stays_ofExcept r

theorem stays_forEach {f : β → Prog Unit} (bs : List β) (hf : ∀ b, Stays own p (f b)) :
    Stays own p (Proc.forEach f bs) := by
  induction bs with
  | nil => exact rfl
  | cons b bs ih => exact stays_bind (hf b) fun _ => ih

theorem stays_applyNow {id : RunId} {event : RuntimeEvent}
    (ha : mayRun own p (.applyEvent id event 0)) : Stays own p (applyNow id event) :=
  stays_bind stays_clock fun _ =>
    stays_bind (stays_transaction ha fun _ => rfl) fun _ => stays_ret _

theorem stays_settleNow (id : RunId) (code : String) : Stays own p (settleNow id code) :=
  stays_bind stays_clock fun _ =>
    stays_bind (stays_transaction trivial fun _ => rfl) fun _ => stays_ret _

theorem endsOnly_status {e : StatusEvent} (h : e.status.toRunState.terminal = true) :
    EndsOnly (.status e) := fun _ => .inr h

end Rules

/-! ## The executor -/

section Executor

open InProcessRunExecutor

variable {own : Option RunId} {p : Phase} (services : HostedServices)

theorem stays_finish (run : RunRecord) {status : RuntimeStatus} (code message : String)
    (retryable : Bool) (h : status.toRunState.terminal = true) :
    Stays own p (finish run status code message retryable) :=
  stays_applyNow (.inl (endsOnly_status h))

theorem stays_finishUnknown (run : RunRecord) (code : String) :
    Stays own p (InProcessRunExecutor.finishUnknown run code) :=
  stays_finish run _ _ _ rfl

theorem stays_track (runId : RunId) (s : Reading) (event : RuntimeEvent) :
    Stays own p (track runId s event) := by
  unfold track
  cases event with
  | status e =>
    dsimp only
    split
    · exact stays_bind stays_clock fun _ =>
        stays_bind (stays_transaction trivial fun _ => rfl) fun _ => stays_ret _
    · exact stays_ret s
  | activity e => exact stays_ret s
  | output e => exact stays_ret s
  | reply e => exact stays_ret s

variable {id : RunId}

theorem stays_readEvent (s : Reading) (event : RuntimeEvent) :
    Stays (some id) .sent (readEvent services id s event) := by
  refine stays_bind (stays_track id s event) fun s₁ => ?_
  refine stays_bind (stays_ofExcept _) fun s₂ => ?_
  split
  · split
    · exact stays_fail _
    · exact stays_bind stays_clock fun _ =>
        stays_bind (stays_transaction trivial fun _ => rfl) fun _ => stays_ret _
  · exact stays_fail _
  · exact stays_ret _
  · exact stays_bind (stays_applyNow (.inr ⟨nofun, rfl⟩)) fun _ => stays_ret _

theorem stays_readStream (n : Nat) (s : Reading) :
    Stays (some id) .sent (InProcessRunExecutor.readStream services id n s) := by
  induction n generalizing s with
  | zero => exact stays_ret s
  | succ n ih =>
    refine stays_call trivial (fun _ => rfl) fun step _ => ?_
    cases step with
    | yields event => exact stays_bind (stays_readEvent services s event.val) fun s' => ih s'
    | throws failure => exact rfl

theorem keeps_runAdapter {current : RunRecord} (hid : current.runId = id) :
    Keeps (discipline (some id)) (fun q _ => q = .sent) .fenced (runAdapter services current) := by
  refine keeps_call ⟨rfl, by rw [hid]⟩ fun steps q hq => ?_
  obtain ⟨rfl, -⟩ := hq
  rw [hid]
  refine stays_bind (stays_readStream services steps {}) fun s => ?_
  refine stays_getRun (stays_finishUnknown _ _) fun completed _ => ?_
  exact stays_ite (fun _ => stays_finishUnknown _ _) fun _ => stays_ret completed

theorem stays_executorFailure (current : RunRecord) (failure : Failure) :
    Stays own p (InProcessRunExecutor.afterFailure current failure) := by
  refine stays_bind (stays_transaction trivial fun _ => rfl) fun latest => ?_
  refine stays_ite (fun _ => stays_ret _) fun _ => ?_
  cases failure with
  | error message => exact stays_finishUnknown _ _
  | runtime code disposition message retryable =>
    exact stays_finish _ _ _ _ (by cases disposition <;> rfl)

/-- A prepared Run that crossed the fence sends at most once. -/
theorem keeps_executePrepared {prepared : RunRecord} (hid : prepared.runId = id) :
    Keeps (discipline (some id)) (fun q _ => q ≠ .clear) .fenced
      (executePrepared services prepared) := by
  have hend : ∀ {α : Type} {q : Phase} {x : Prog α}, q ≠ .clear → Stays (some id) q x →
      Keeps (discipline (some id)) (fun q _ => q ≠ .clear) q x :=
    fun hq hx => hx.mono fun _ _ h => by rw [h]; exact hq
  refine keeps_call trivial fun r q hq => ?_
  obtain ⟨rfl, hr⟩ := hq
  match r, hr with
  | .error e, _ => exact nofun
  | .ok none, _ => exact hend nofun (stays_fail _)
  | .ok (some current), hr =>
    have hcurrent : current.runId = id := Eq.trans hr hid
    show Keeps _ _ _ (if _ then _ else _)
    split
    · exact hend nofun (stays_ret current)
    split
    · exact hend nofun (stays_fail _)
    have hadapter : Keeps (discipline (some id)) (fun q _ => q = .sent) .fenced
        (runAdapter services current).attempt :=
      keeps_attempt (keeps_runAdapter services hcurrent) fun _ _ h => h
    refine keeps_bind hadapter (fun q outcome hq => ?_) fun q e hq => by rw [hq]; exact nofun
    rw [hq]
    cases outcome with
    | ok run => exact hend nofun (stays_ret run)
    | error failure => exact hend nofun (stays_executorFailure current failure)

end Executor

/-! ## The scheduler -/

section Scheduler

open HostedRunScheduler

variable {own : Option RunId} {p : Phase} {id : RunId} (services : HostedServices)

theorem stays_unknown (run : RunRecord) (code message : String) (now : Time) :
    Stays own p (HostedRunScheduler.finishUnknown run code message now) := by
  refine stays_bind (stays_transaction trivial fun _ => rfl) fun latest => ?_
  refine stays_ite (fun _ => stays_ret _) fun _ => ?_
  exact stays_bind (stays_transaction (.inl (endsOnly_status rfl)) fun _ => rfl) fun _ =>
    stays_ret _

theorem stays_refuseRoom (run : RunRecord) : Stays own p (refuseRoom run) := by
  refine stays_bind (stays_bind stays_clock fun now => ?_) fun failed => stays_notify failed
  refine stays_bind (stays_transaction trivial fun _ => rfl) fun latest => ?_
  refine stays_ite (fun _ => stays_ret _) fun _ => ?_
  refine stays_bind (stays_transaction (.inl (endsOnly_status rfl)) fun _ => rfl) fun applied => ?_
  refine stays_bind (stays_transaction trivial fun _ => rfl) fun found => ?_
  cases found with
  | none => exact stays_ret _
  | some row => exact stays_bind (stays_transaction trivial fun _ => rfl) fun _ => stays_ret _

theorem stays_expire (queued : Option RunRecord) :
    Stays own p (expireBeforePreparation id queued) := by
  cases queued with
  | none => exact stays_ret none
  | some run =>
    refine stays_ite (fun _ => stays_ret none) fun _ => stays_bind stays_clock fun now => ?_
    refine stays_ite (fun _ => ?_) fun _ => stays_ret none
    exact stays_bind (stays_applyNow (.inl (endsOnly_status rfl))) fun _ => stays_ret _

theorem stays_settleExpired (expired : RunRecord) : Stays own p (settleExpired id expired) := by
  refine stays_bind (stays_transaction trivial fun _ => rfl) fun found => ?_
  cases found with
  | none => exact stays_notify expired
  | some row => exact stays_bind (stays_settleNow _ _) fun _ => stays_notify expired

theorem stays_outOfScope (queued : Option RunRecord) : Stays own p (outOfScope queued) := by
  cases queued with
  | none => exact stays_ret none
  | some run => exact stays_call trivial (fun _ => rfl) fun _ _ => stays_ret _

/-- What the way to the fence ends with: a Run that is handed on is fenced. -/
def Crossed (id : RunId) (q : Phase) (r : Except Failure (Option RunRecord)) : Prop :=
  match r with
  | .ok (some run) => q = .fenced ∧ run.runId = id
  | _ => True

theorem crossed_bind {α : Type} {x : Prog α} {f : α → Prog (Option RunRecord)}
    (hx : Stays own .clear x) (hf : ∀ a, Keeps (discipline own) (Crossed id) .clear (f a)) :
    Keeps (discipline own) (Crossed id) .clear (x >>= f) :=
  keeps_bind hx (fun q a hq => by rw [hq]; exact hf a) fun _ _ _ => trivial

theorem crossed_none {α : Type} {q : Phase} {x : Prog α} (hx : Stays own q x) :
    Keeps (discipline own) (Crossed id) q (x >>= fun _ => pure none) :=
  keeps_bind hx (fun _ _ _ => trivial) fun _ _ _ => trivial

theorem crossed_crossFence {run : RunRecord} (hid : run.runId = id) (execution : ExecutionProfile)
    (digest : String) :
    Keeps (discipline (some id)) (Crossed id) .clear (crossFence id run execution digest) := by
  refine crossed_bind stays_clock fun now => ?_
  refine crossed_bind (stays_transaction trivial fun _ => rfl) fun invocation => ?_
  refine crossed_bind stays_clock fun now => ?_
  refine keeps_call ⟨rfl, rfl⟩ fun r q hq => ?_
  obtain ⟨rfl, -⟩ := hq
  match r with
  | .error e => exact trivial
  | .ok row =>
    show Keeps _ _ (if row.state = .dispatching then _ else _)
      (if row.state = .dispatching then _ else _)
    by_cases hrow : row.state = .dispatching
    · rw [if_pos hrow, if_pos hrow]
      exact ⟨rfl, hid⟩
    · rw [if_neg hrow, if_neg hrow]
      refine crossed_bind (stays_transaction trivial fun _ => rfl) fun found => ?_
      cases found with
      | none => exact trivial
      | some terminal =>
        show Keeps _ _ _ (if _ then _ else _)
        split
        · exact crossed_none (stays_notify terminal)
        · exact trivial

theorem crossed_untilDispatch :
    Keeps (discipline (some id)) (Crossed id) .clear (untilDispatch id) := by
  refine crossed_bind (stays_transaction trivial fun _ => rfl) fun queued => ?_
  refine crossed_bind (stays_expire queued) fun expired => ?_
  cases expired with
  | some run => exact crossed_none (stays_settleExpired run)
  | none =>
    refine crossed_bind (stays_outOfScope queued) fun outside => ?_
    cases outside with
    | some run => exact crossed_none (stays_refuseRoom run)
    | none =>
      -- the Run that is prepared is the one that was read
      have hprepare : Keeps (discipline (some id)) (fun q r => q = .clear ∧
          ∀ run, r = .ok run → run.runId = id) .clear (InProcessRunExecutor.prepare id) := by
        refine keeps_call trivial fun r q hq => ?_
        obtain ⟨rfl, hr⟩ := hq
        match r, hr with
        | .error e, _ => exact ⟨rfl, nofun⟩
        | .ok none, _ => exact ⟨rfl, nofun⟩
        | .ok (some initial), hr =>
          show Keeps _ _ _ (if _ then _ else _)
          split
          · exact ⟨rfl, nofun⟩
          split
          · exact ⟨rfl, nofun⟩
          have hplan : Stays (some id) .clear (planExecution initial) :=
            stays_call trivial (fun _ => rfl) fun r _ => stays_ofExcept r
          refine keeps_bind hplan (fun q _ hq => ⟨hq, fun run hrun => ?_⟩)
            fun q _ hq => ⟨hq, nofun⟩
          cases hrun
          exact hr
      refine keeps_bind hprepare (fun q prepared hq => ?_) fun _ _ _ => trivial
      obtain ⟨rfl, hid⟩ := hq
      have hrun := hid prepared rfl
      refine crossed_bind (stays_call trivial (fun _ => rfl) fun r _ => stays_ofExcept r)
        fun execution => ?_
      refine crossed_bind (stays_call trivial (fun _ => rfl) fun r _ => stays_ofExcept r)
        fun digest => ?_
      refine crossed_bind (stays_call trivial (fun _ => rfl) fun r _ => stays_ret r)
        fun admitted => ?_
      show Keeps _ _ _ (if _ then _ else _)
      split
      · exact crossed_none (stays_refuseRoom prepared)
      · exact crossed_crossFence hrun execution digest

theorem stays_terminalFailureCode (run : RunRecord) :
    Stays own p (terminalFailureCode run) := by
  refine stays_bind (stays_transaction trivial fun _ => rfl) fun events => ?_
  split <;> exact stays_ret _

theorem stays_afterFailure (crossed : Bool) : Stays own p (afterFailure id crossed) := by
  refine stays_bind (stays_transaction trivial fun _ => rfl) fun found => ?_
  cases found with
  | none => exact stays_ret ()
  | some latest =>
    have hend : Stays own p (endFailed id crossed latest) := by
      refine stays_ite (fun _ => stays_ret _) fun _ => stays_ite (fun _ => ?_) fun _ => ?_
      · exact stays_bind stays_clock fun now => stays_unknown latest _ _ now
      · exact stays_applyNow (.inl (endsOnly_status rfl))
    refine stays_bind hend fun terminal => ?_
    refine stays_bind (stays_transaction trivial fun _ => rfl) fun row => ?_
    cases row with
    | none => exact stays_notify terminal
    | some row => exact stays_bind (stays_settleNow _ _) fun _ => stays_notify terminal

theorem keeps_afterDispatch {prepared : RunRecord} (hid : prepared.runId = id) :
    Keeps (discipline (some id)) (fun _ _ => True) .fenced
      (afterDispatch services id prepared) := by
  have hany : ∀ {α : Type} {q : Phase} {x : Prog α}, Stays (some id) q x →
      Keeps (discipline (some id)) (fun _ _ => True) q x :=
    fun hx => hx.mono fun _ _ _ => trivial
  refine keeps_call trivial fun r q hq => ?_
  obtain ⟨rfl, -⟩ := hq
  refine keeps_bind (keeps_executePrepared services hid) (fun q terminal _ => ?_)
    fun _ _ _ => trivial
  refine hany (stays_bind (stays_terminalFailureCode terminal) fun code => ?_)
  exact stays_bind (stays_settleNow _ _) fun _ => stays_notify terminal

/-- **`executeOne` keeps the discipline.** -/
theorem keeps_executeOne (id : RunId) :
    Keeps (discipline (some id)) (fun _ _ => True) .clear (executeOne services id) := by
  have hany : ∀ {α : Type} {q : Phase} {x : Prog α}, Stays (some id) q x →
      Keeps (discipline (some id)) (fun _ _ => True) q x :=
    fun hx => hx.mono fun _ _ _ => trivial
  have hbefore : Keeps (discipline (some id))
      (fun q r => ∃ r', r = .ok r' ∧ Crossed id q r') .clear (untilDispatch id).attempt :=
    keeps_attempt crossed_untilDispatch fun q r h => ⟨r, rfl, h⟩
  refine keeps_bind hbefore (fun q r hq => ?_) fun _ _ _ => trivial
  obtain ⟨r', hr', hcrossed⟩ := hq
  cases hr'
  match r, hcrossed with
  | .error e, _ => exact hany (stays_afterFailure false)
  | .ok none, _ => exact trivial
  | .ok (some prepared), hcrossed =>
    obtain ⟨rfl, hid⟩ := hcrossed
    have hafter : Keeps (discipline (some id)) (fun _ _ => True) .fenced
        (afterDispatch services id prepared).attempt :=
      keeps_attempt (keeps_afterDispatch services hid) fun _ _ _ => trivial
    refine keeps_bind hafter (fun q outcome _ => ?_) fun _ _ _ => trivial
    cases outcome with
    | ok u => exact trivial
    | error e => exact hany (stays_afterFailure true)

/-! ## The controls -/

theorem stays_endUnknown (code message : String) (now : Time) :
    Stays own p (endUnknown id code message now) := by
  refine stays_bind (stays_transaction trivial fun _ => rfl) fun found => ?_
  cases found with
  | none => exact stays_ret ()
  | some run =>
    refine stays_ite (fun _ => stays_ret ()) fun _ => ?_
    refine stays_bind (stays_unknown run _ _ now) fun _ => ?_
    exact stays_bind (stays_transaction trivial fun _ => rfl) fun _ => stays_ret _

theorem stays_abort : Stays own p (abort id) :=
  stays_call trivial (fun _ => rfl) fun _ _ => stays_ret ()

theorem stays_cancel (memberId : MemberId) (reason : String) :
    Stays own p (cancel id memberId reason) := by
  have hnotify : ∀ run, Stays own p ((notifyTerminal run).attempt >>= fun _ => pure ()) :=
    fun run => stays_bind (stays_attempt (stays_notify run)) fun _ => stays_ret ()
  refine stays_bind (stays_transaction trivial fun _ => rfl) fun found => ?_
  cases found with
  | none => exact stays_fail _
  | some run =>
    refine stays_ite (fun _ => stays_ret ()) fun _ => stays_bind stays_clock fun now => ?_
    refine stays_bind (stays_transaction trivial fun _ => rfl) fun row => ?_
    cases row with
    | none =>
      exact stays_bind (stays_transaction (.inl (endsOnly_status rfl)) fun _ => rfl)
        fun canceled => hnotify _
    | some invocation =>
      refine stays_ite (fun _ => ?_) fun _ => ?_
      · exact stays_bind (stays_transaction trivial fun _ => rfl) fun canceled => hnotify _
      · refine stays_bind (stays_transaction trivial fun _ => rfl) fun _ => ?_
        refine stays_bind (stays_unknown run _ _ now) fun unknown => ?_
        refine stays_bind (stays_transaction trivial fun _ => rfl) fun _ => ?_
        exact stays_bind (stays_attempt (stays_notify unknown)) fun _ => stays_abort

theorem stays_revokeAgent (agentId : AgentId) : Stays own p (revokeAgent agentId) := by
  refine stays_bind stays_clock fun now => stays_call trivial (fun _ => rfl) fun entries _ => ?_
  refine stays_forEach entries fun entry => stays_ite (fun _ => stays_ret ()) fun _ => ?_
  exact stays_bind (stays_endUnknown _ _ now) fun _ => stays_abort

theorem stays_shutdown : Stays own p shutdown := by
  refine stays_call trivial (fun _ => rfl) fun _ _ => stays_bind stays_clock fun now => ?_
  refine stays_call trivial (fun _ => rfl) fun entries _ => ?_
  exact stays_forEach entries fun entry =>
    stays_bind (stays_endUnknown _ _ now) fun _ => stays_abort

theorem stays_deadlineReached : Stays own p (deadlineReached id) :=
  stays_bind stays_clock fun now => stays_bind (stays_endUnknown _ _ now) fun _ => stays_abort

end Scheduler

end AgentRoom.Hosted
