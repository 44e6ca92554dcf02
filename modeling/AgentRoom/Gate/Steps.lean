import AgentRoom.Gate.Stages

/-!
# The steps of the execution gate

What a call does in one step is read off once, as `Takes`. Every step keeps the stages sound;
only the mover's phase moves, and only as `Goes` says.
-/

namespace AgentRoom.Gate

variable {Agent Ctx : Type} [DecidableEq Agent] [DecidableEq Ctx]

/-- What each move finds and does. -/
inductive Takes (w : World Agent Ctx) (id : CallId) (call : Call Agent Ctx) :
    Move → World Agent Ctx → Prop
  | wake (hphase : call.phase = .selecting) (hready : call.ready = true) :
      Takes w id call .wake (w.to id .woken)
  | declines (hphase : call.phase = .woken) (hcanceled : w.canceled call.ctx = true) :
      Takes w id call .check (w.to id .owing)
  | returns (hphase : call.phase = .woken) (hlive : w.canceled call.ctx = false) :
      Takes w id call .check { w.to id .holding with returned := w.returned ++ [id] }
  | giveUp (hphase : call.phase = .selecting) (hcanceled : w.canceled call.ctx = true) :
      Takes w id call .giveUp (w.to id .leaving)
  | leaves (hphase : call.phase = .leaving) (hin : id ∈ w.queues call.agent) :
      Takes w id call .withdraw (World.to { w with
        queues := Function.update w.queues call.agent ((w.queues call.agent).erase id) }
        id .refused)
  | owes (hphase : call.phase = .leaving) (hout : id ∉ w.queues call.agent) :
      Takes w id call .withdraw (w.to id .owing)
  | giveBack (hphase : call.phase = .owing) :
      Takes w id call .giveBack ((w.release call.agent).to id .refused)
  | release (hphase : call.phase = .holding) : Takes w id call .release (w.to id .releasing)
  | again (hphase : call.phase = .releasing ∨ call.phase = .released) :
      Takes w id call .release w
  | finish (hphase : call.phase = .releasing) :
      Takes w id call .finish ((w.release call.agent).to id .released)

variable {w w' : World Agent Ctx} {id : CallId} {call : Call Agent Ctx}

omit [DecidableEq Ctx] in
theorem takes_of_move {move : Move} (h : w.move id call move = some w') :
    Takes w id call move w' := by
  cases move <;> simp only [World.move] at h
  case wake =>
    obtain ⟨⟨hphase, hready⟩, rfl⟩ :=
      Option.ite_none_right_eq_some.mp h |>.imp_right Option.some.inj
    exact .wake hphase hready
  case check =>
    obtain ⟨hphase, h⟩ := Option.ite_none_right_eq_some.mp h
    split at h <;> obtain rfl := Option.some.inj h
    · exact .declines hphase ‹_›
    · exact .returns hphase (Bool.eq_false_iff.mpr ‹_›)
  case giveUp =>
    obtain ⟨⟨hphase, hcanceled⟩, h⟩ := Option.ite_none_right_eq_some.mp h
    exact Option.some.inj h ▸ .giveUp hphase hcanceled
  case withdraw =>
    obtain ⟨hphase, h⟩ := Option.ite_none_right_eq_some.mp h
    obtain rfl := Option.some.inj h
    unfold World.withdraw
    split
    · exact .leaves hphase ‹_›
    · exact .owes hphase ‹_›
  case giveBack =>
    obtain ⟨hphase, h⟩ := Option.ite_none_right_eq_some.mp h
    exact Option.some.inj h ▸ .giveBack hphase
  case release =>
    split at h
    · exact Option.some.inj h ▸ .release ‹_›
    · exact Option.some.inj h ▸ .again (.inl ‹_›)
    · exact Option.some.inj h ▸ .again (.inr ‹_›)
    · cases h
  case finish =>
    obtain ⟨hphase, h⟩ := Option.ite_none_right_eq_some.mp h
    exact Option.some.inj h ▸ .finish hphase

/-! ### The stages after a step -/

section Stages

omit [DecidableEq Agent] [DecidableEq Ctx]

variable {calls : List (Call Agent Ctx)} {call' : Call Agent Ctx}

theorem stages_of (hcall : calls[id]? = some call) :
    stages calls id = some (call.agent, call.stage) := by
  simp [stages, hcall]

theorem stages_modify (hcall : calls[id]? = some call) (f : Call Agent Ctx → Call Agent Ctx) :
    stages (calls.modify id f) =
      Function.update (stages calls) id (some ((f call).agent, (f call).stage)) := by
  funext c
  by_cases heq : c = id
  · subst heq
    simp [stages, hcall]
  · simp [stages, heq, Ne.symm heq]

theorem stages_append (call : Call Agent Ctx) :
    stages (calls ++ [call]) =
      Function.update (stages calls) calls.length (some (call.agent, call.stage)) := by
  funext c
  by_cases heq : c = calls.length
  · subst heq
    simp [stages]
  · obtain hlt | hlt := Nat.lt_or_gt_of_ne heq
    · simp [stages, heq, List.getElem?_append_left hlt]
    · have hnone : (calls ++ [call])[c]? = none := List.getElem?_eq_none (by simp; omega)
      simp [stages, heq, hnone, List.getElem?_eq_none (Nat.le_of_lt hlt)]

theorem offered_of_ready (hwaits : call.stage = .waiting) (agent : Agent) :
    Call.stage { call with agent, ready := true } = .offered := by
  revert hwaits
  cases hphase : call.phase <;> simp [Call.stage, hphase]

def World.Stages (w : World Agent Ctx) : Prop :=
  Sound w.calls.length w.active w.queues (stages w.calls) w.returned

theorem World.Stages.to_same (h : w.Stages) (hcall : w.calls[id]? = some call) {phase : Phase}
    (hstage : Call.stage { call with phase } = call.stage) : (w.to id phase).Stages := by
  have hsame : stages (w.to id phase).calls = stages w.calls := by
    rw [World.to, stages_modify hcall, hstage, ← stages_of hcall, Function.update_eq_self]
  rw [World.Stages, hsame]
  have hlength : (w.to id phase).calls.length = w.calls.length := by simp [World.to]
  rw [hlength]
  exact h

end Stages

omit [DecidableEq Ctx] in
/-- The permit is given back. -/
theorem World.Stages.release (h : w.Stages) (hcall : w.calls[id]? = some call) {phase : Phase}
    (hgives : Gives call.stage (Call.stage { call with phase })) :
    ((w.release call.agent).to id phase).Stages := by
  have hview := stages_of hcall
  unfold World.release World.to World.Stages
  cases hqueue : w.queues call.agent with
  | nil =>
    have hfrees := Sound.frees h hview hgives hqueue
    simpa [stages_modify hcall] using hfrees
  | cons next queue =>
    have hnext := (h.queued call.agent next).mp (by simp [hqueue])
    obtain ⟨waiter, hwaiter, hpair⟩ := Option.map_eq_some_iff.mp hnext
    obtain ⟨hagent, hwaits⟩ := Prod.mk.inj hpair
    have hne : next ≠ id := by
      rintro rfl
      grind [Gives]
    have hoffered := fun agent : Agent => offered_of_ready hwaits agent
    have hcall' : (w.calls.modify next fun c => { c with ready := true })[id]? = some call := by
      simp [hne, hcall]
    have hpasses := Sound.passes h hview hgives hqueue
    simpa only [stages_modify hcall', stages_modify hwaiter, hoffered, hagent,
      List.length_modify] using hpasses

omit [DecidableEq Ctx] in
/-- A step of a call keeps the stages sound. -/
theorem Takes.stages {move : Move} (hcall : w.calls[id]? = some call)
    (htakes : Takes w id call move w') (h : w.Stages) : w'.Stages := by
  have hview := stages_of hcall
  have hqueued := h.queued call.agent id
  cases htakes with
  | wake hphase hready => exact h.to_same hcall (by simp [Call.stage, hphase, hready])
  | giveUp hphase => exact h.to_same hcall (by simp [Call.stage, hphase])
  | release hphase => exact h.to_same hcall (by simp [Call.stage, hphase])
  | again => exact h
  | giveBack hphase => exact h.release hcall (.inl (by simp [Call.stage, hphase]))
  | finish hphase => exact h.release hcall (.inr (by simp [Call.stage, hphase]))
  | declines hphase =>
    have hdeclines := h.settles (by simpa [Call.stage, hphase] using hview) (.inr ⟨rfl, rfl⟩)
    simpa [World.Stages, World.to, stages_modify hcall, Call.stage] using hdeclines
  | returns hphase =>
    have hreturns := h.settles (by simpa [Call.stage, hphase] using hview) (.inl ⟨rfl, rfl⟩)
    simpa [World.Stages, World.to, stages_modify hcall, Call.stage] using hreturns
  | leaves hphase hin =>
    have hwithdraws := Sound.withdraws h (hqueued.mp hin)
    simpa [World.Stages, World.to, stages_modify hcall, Call.stage] using hwithdraws
  | owes hphase hout =>
    have hoffered : call.stage = .offered := by
      have hready : call.ready = true := by
        by_contra hready
        exact hout (hqueued.mpr (by simp [hview, Call.stage, hphase, hready]))
      simp [Call.stage, hphase, hready]
    have hdeclines := h.settles (hoffered ▸ hview) (.inr ⟨rfl, rfl⟩)
    simpa [World.Stages, World.to, stages_modify hcall, Call.stage] using hdeclines

omit [DecidableEq Ctx] in
theorem World.Stages.acquire (h : w.Stages) (agent : Agent) (ctx : Ctx) :
    (w.acquire agent ctx).Stages := by
  unfold World.acquire
  split
  · next hactive =>
      have hjoins := Sound.joins h hactive
      simpa [World.Stages, stages_append, Call.stage] using hjoins
  · next hactive =>
      have henters := Sound.enters h (Bool.not_eq_true _ ▸ hactive)
      simpa [World.Stages, stages_append, Call.stage] using henters

/-- **The step lemma.** -/
theorem World.Stages.act {act : Act Agent Ctx} (hact : w.act act = some w') (h : w.Stages) :
    w'.Stages := by
  cases act with
  | acquire agent ctx => exact Option.some.inj hact ▸ h.acquire agent ctx
  | cancel ctx => exact Option.some.inj hact ▸ h
  | call id move =>
    obtain ⟨call, hcall, hmove⟩ := Option.bind_eq_some_iff.mp hact
    exact (takes_of_move hmove).stages hcall h

/-! ### The phases after a step -/

/-- How the phase of a call moves in one step; its context may be cancelled. -/
inductive Goes (canceled : Bool) : Phase → Phase → Prop
  | stays (phase : Phase) : Goes canceled phase phase
  | wakes : Goes canceled .selecting .woken
  | declines (h : canceled = true) : Goes canceled .woken .owing
  | returns (h : canceled = false) : Goes canceled .woken .holding
  | leaves (h : canceled = true) : Goes canceled .selecting .leaving
  | refuses (phase : Phase) (h : phase = .leaving ∨ phase = .owing) : Goes canceled phase .refused
  | owes : Goes canceled .leaving .owing
  | releases : Goes canceled .holding .releasing
  | finishes : Goes canceled .releasing .released

variable {c : CallId} {caller : Call Agent Ctx}

omit [DecidableEq Ctx] in
theorem World.release_calls (w : World Agent Ctx) (agent : Agent)
    (hcall : w.calls[c]? = some caller) :
    ∃ ready, (w.release agent).calls[c]? = some { caller with ready } ∧
      (caller.ready = true → ready = true) := by
  unfold World.release
  split
  · exact ⟨caller.ready, hcall, fun h => h⟩
  · next next _ _ =>
      by_cases heq : next = c
      · subst heq
        exact ⟨true, by simp [hcall], fun _ => rfl⟩
      · exact ⟨caller.ready, by simp [heq, hcall], fun h => h⟩

omit [DecidableEq Agent] [DecidableEq Ctx] in
theorem World.to_calls (phase : Phase) (hcall : w.calls[c]? = some caller) :
    (w.to id phase).calls[c]? =
      some { caller with phase := if c = id then phase else caller.phase } := by
  by_cases heq : id = c
  · subst heq
    simp [World.to, hcall]
  · simp [World.to, heq, hcall, Ne.symm heq]

omit [DecidableEq Ctx] in
theorem Takes.calls {move : Move} (hcall : w.calls[id]? = some call)
    (htakes : Takes w id call move w') {c : CallId} {caller : Call Agent Ctx}
    (hc : w.calls[c]? = some caller) :
    ∃ phase ready, w'.calls[c]? = some { caller with phase, ready } ∧
      Goes (w.canceled caller.ctx) caller.phase phase ∧
      (c ≠ id → phase = caller.phase) ∧ (caller.ready = true → ready = true) := by
  -- a call other than the mover keeps its phase
  have hto : ∀ {v : World Agent Ctx} {ready : Bool} (phase : Phase),
      v.calls[c]? = some { caller with ready } → (caller.ready = true → ready = true) →
      Goes (w.canceled call.ctx) call.phase phase →
      ∃ phase' ready', (v.to id phase).calls[c]? =
        some { caller with phase := phase', ready := ready' } ∧
        Goes (w.canceled caller.ctx) caller.phase phase' ∧
        (c ≠ id → phase' = caller.phase) ∧ (caller.ready = true → ready' = true) := by
    intro v ready phase hv hready hgoes
    refine ⟨if c = id then phase else caller.phase, ready, World.to_calls phase hv, ?_,
      fun hne => if_neg hne, hready⟩
    by_cases heq : c = id
    · subst heq
      obtain rfl := Option.mem_unique hcall hc
      simpa using hgoes
    · simpa [heq] using .stays _
  have hstay := fun phase => @hto w caller.ready phase hc fun h => h
  obtain ⟨ready, hreleased, hready⟩ := w.release_calls call.agent hc
  cases htakes with
  | wake hphase => exact hstay _ (hphase ▸ .wakes)
  | declines hphase hcanceled => exact hstay _ (hphase ▸ .declines hcanceled)
  | returns hphase hlive => exact hstay _ (hphase ▸ .returns hlive)
  | giveUp hphase hcanceled => exact hstay _ (hphase ▸ .leaves hcanceled)
  | leaves hphase =>
    exact hto (v := { w with queues := _ }) _ hc (fun h => h) (.refuses _ (.inl hphase))
  | owes hphase => exact hstay _ (hphase ▸ .owes)
  | giveBack hphase => exact hto _ hreleased hready (.refuses _ (.inr hphase))
  | release hphase => exact hstay _ (hphase ▸ .releases)
  | again => exact ⟨_, _, hc, .stays _, fun _ => rfl, fun h => h⟩
  | finish hphase => exact hto _ hreleased hready (hphase ▸ .finishes)

variable {act : Act Agent Ctx}

/-- **What a step makes of a call.** -/
theorem World.act_calls (hact : w.act act = some w') (hc : w.calls[c]? = some caller) :
    ∃ phase ready, w'.calls[c]? = some { caller with phase, ready } ∧
      Goes (w.canceled caller.ctx) caller.phase phase ∧
      ((∀ move, act ≠ .call c move) → phase = caller.phase) ∧
      (caller.ready = true → ready = true) := by
  cases act with
  | acquire agent ctx =>
    obtain rfl := Option.some.inj hact
    have hlt := (List.getElem?_eq_some_iff.mp hc).1
    refine ⟨caller.phase, caller.ready, ?_, .stays _, fun _ => rfl, fun h => h⟩
    unfold World.acquire
    split <;> simp [List.getElem?_append_left hlt, hc]
  | cancel ctx =>
    exact Option.some.inj hact ▸ ⟨_, _, hc, .stays _, fun _ => rfl, fun h => h⟩
  | call id move =>
    obtain ⟨call, hcall, hmove⟩ := Option.bind_eq_some_iff.mp hact
    obtain ⟨phase, ready, hnext, hgoes, hother, hready⟩ := (takes_of_move hmove).calls hcall hc
    refine ⟨phase, ready, hnext, hgoes, fun hne => hother ?_, hready⟩
    rintro rfl
    exact hne move rfl

/-- No step takes a cancellation back. -/
theorem World.act_canceled (hact : w.act act = some w') {ctx : Ctx}
    (hcanceled : w.canceled ctx = true) : w'.canceled ctx = true := by
  have hrelease : ∀ agent, (w.release agent).canceled = w.canceled := by
    intro agent
    unfold World.release
    split <;> rfl
  cases act with
  | acquire agent ctx₁ =>
    obtain rfl := Option.some.inj hact
    unfold World.acquire
    split <;> exact hcanceled
  | cancel ctx₁ =>
    obtain rfl := Option.some.inj hact
    by_cases heq : ctx = ctx₁
    · simp [heq]
    · simpa [heq] using hcanceled
  | call id move =>
    obtain ⟨call, -, hmove⟩ := Option.bind_eq_some_iff.mp hact
    cases takes_of_move hmove <;> simpa [World.to, hrelease] using hcanceled

omit [DecidableEq Ctx] in
theorem World.release_length (w : World Agent Ctx) (agent : Agent) :
    (w.release agent).calls.length = w.calls.length := by
  unfold World.release
  split <;> simp

/-- A new call waits or holds its permit. -/
theorem World.act_new (hact : w.act act = some w') (hc : w.calls.length ≤ c)
    (hc' : w'.calls[c]? = some caller) :
    caller.phase = .selecting ∨ caller.phase = .holding := by
  have hlt := (List.getElem?_eq_some_iff.mp hc').1
  cases act with
  | acquire agent ctx =>
    obtain rfl := Option.some.inj hact
    unfold World.acquire at hc' hlt
    split at hc' <;> grind
  | cancel ctx =>
    obtain rfl := Option.some.inj hact
    exact absurd hlt (Nat.not_lt.mpr hc)
  | call id move =>
    obtain ⟨call, -, hmove⟩ := Option.bind_eq_some_iff.mp hact
    have hlength : w'.calls.length = w.calls.length := by
      cases takes_of_move hmove <;> simp [World.to, World.release_length]
    omega

end AgentRoom.Gate
