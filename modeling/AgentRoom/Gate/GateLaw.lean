import AgentRoom.Gate.Steps

/-!
# The law of the execution gate

A call that declines has a cancelled context, a call whose context is cancelled before it has
returned never returns with the permit, and such a call hands a permit on that it was offered.
-/

namespace AgentRoom.Gate

variable {Agent Ctx : Type} [DecidableEq Agent] [DecidableEq Ctx]
  {w w' : World Agent Ctx} {id : CallId} {call : Call Agent Ctx}

/-! ### Cancelled contexts -/

/-- A call that declines, or has declined, has a cancelled context. -/
def World.Declined (w : World Agent Ctx) : Prop :=
  ∀ (id : CallId) (call : Call Agent Ctx), w.calls[id]? = some call →
    call.phase = .leaving ∨ call.phase = .owing ∨ call.phase = .refused →
    w.canceled call.ctx = true

theorem World.Declined.act {act : Act Agent Ctx} (hact : w.act act = some w') (h : w.Declined) :
    w'.Declined := by
  intro c call' hcall' hphase
  cases hc : w.calls[c]? with
  | some caller =>
    obtain ⟨phase, ready, hnext, hgoes, -⟩ := World.act_calls hact hc
    obtain rfl := Option.mem_unique hcall' hnext
    refine World.act_canceled hact ?_
    have hbefore := h c caller hc
    generalize w.canceled caller.ctx = canceled at hgoes hbefore ⊢
    generalize caller.phase = before at hgoes hbefore
    cases hgoes with
    | refuses _ hleaves => exact hbefore (hleaves.imp_right .inl)
    | _ => simp_all
  | none =>
    obtain hnew | hnew := World.act_new hact (List.getElem?_eq_none_iff.mp hc) hcall' <;>
      simp [hnew] at hphase

/-- How a state of the gate relates to a later one. -/
structure Later (w w' : World Agent Ctx) : Prop where
  canceled : ∀ ctx, w.canceled ctx = true → w'.canceled ctx = true
  call : ∀ (id : CallId) (call : Call Agent Ctx), w.calls[id]? = some call →
    ∃ call', w'.calls[id]? = some call' ∧ call'.agent = call.agent ∧ call'.ctx = call.ctx ∧
      (w.canceled call.ctx = true → call.stage.got = false → call'.stage.got = false)

omit [DecidableEq Agent] [DecidableEq Ctx] in
theorem Later.refl (w : World Agent Ctx) : Later w w :=
  ⟨fun _ h => h, fun _ call h => ⟨call, h, rfl, rfl, fun _ h => h⟩⟩

omit [DecidableEq Agent] [DecidableEq Ctx] in
theorem Later.trans {w₁ w₂ w₃ : World Agent Ctx} (h : Later w₁ w₂) (h' : Later w₂ w₃) :
    Later w₁ w₃ := by
  refine ⟨fun ctx hctx => h'.canceled ctx (h.canceled ctx hctx), fun id call hcall => ?_⟩
  obtain ⟨call₂, hcall₂, hagent₂, hctx₂, hgot₂⟩ := h.call id call hcall
  obtain ⟨call₃, hcall₃, hagent₃, hctx₃, hgot₃⟩ := h'.call id call₂ hcall₂
  refine ⟨call₃, hcall₃, hagent₃.trans hagent₂, hctx₃.trans hctx₂, fun hcanceled hgot => ?_⟩
  exact hgot₃ (hctx₂ ▸ h.canceled _ hcanceled) (hgot₂ hcanceled hgot)

omit [DecidableEq Agent] [DecidableEq Ctx] in
theorem Call.got_stage (call : Call Agent Ctx) : call.stage.got = true ↔
    call.phase = .holding ∨ call.phase = .releasing ∨ call.phase = .released := by
  obtain ⟨_, _, phase, ready⟩ := call
  cases phase <;> cases ready <;> simp [Call.stage, Stage.got]

theorem Later.of_act {act : Act Agent Ctx} (hact : w.act act = some w') : Later w w' where
  canceled _ := World.act_canceled hact
  call id call hcall := by
    obtain ⟨phase, ready, hnext, hgoes, -⟩ := World.act_calls hact hcall
    refine ⟨_, hnext, rfl, rfl, fun hcanceled hgot => ?_⟩
    have hbefore := Bool.eq_false_iff.mp hgot
    refine Bool.eq_false_iff.mpr ?_
    rw [ne_eq, Call.got_stage] at hbefore ⊢
    generalize call.phase = before at hgoes hbefore
    cases hgoes <;> simp_all

/-! ### A permit that a cancelled call was offered -/

/-- The permit is with the call and it has not returned. -/
def Call.pending (call : Call Agent Ctx) : Bool :=
  match call.stage with
  | .offered | .owing => true
  | _ => false

/-- How many steps of its own a pending cancelled call takes at most. -/
def Call.rank (call : Call Agent Ctx) : Nat :=
  match call.phase with
  | .selecting => 3
  | .woken | .leaving => 2
  | .owing => 1
  | _ => 0

/-- The permit of an Agent goes to the first waiter, or the Agent becomes free. -/
def HandedOn (agent : Agent) (w w' : World Agent Ctx) : Prop :=
  (w.queues agent = [] ∧ w'.active agent = false) ∨
    ∃ next queue, w.queues agent = next :: queue ∧ w'.queues agent = queue ∧
      stages w'.calls next = some (agent, .offered)

theorem act_of_pending (hcall : w.calls[id]? = some call) (hpending : call.pending = true)
    (hcanceled : w.canceled call.ctx = true) :
    ∃ move w', w.act (.call id move) = some w' := by
  simp only [World.act, hcall, Option.bind_some]
  cases hphase : call.phase with
  | selecting => exact ⟨.giveUp, w.to id .leaving, by simp [World.move, hphase, hcanceled]⟩
  | woken => exact ⟨.check, w.to id .owing, by simp [World.move, hphase, hcanceled]⟩
  | leaving => exact ⟨.withdraw, w.withdraw id call.agent, by simp [World.move, hphase]⟩
  | owing =>
    exact ⟨.giveBack, (w.release call.agent).to id .refused, by simp [World.move, hphase]⟩
  | _ => simp [Call.pending, Call.stage, hphase] at hpending

omit [DecidableEq Ctx] in
/-- `release` hands the permit on. -/
theorem handedOn_release (h : w.Stages) (hcall : w.calls[id]? = some call)
    (howing : call.phase = .owing) :
    HandedOn call.agent w ((w.release call.agent).to id .refused) := by
  unfold World.release World.to
  cases hqueue : w.queues call.agent with
  | nil => exact .inl ⟨hqueue, by simp⟩
  | cons next queue =>
    have hnext := (h.queued call.agent next).mp (by simp [hqueue])
    obtain ⟨waiter, hwaiter, hpair⟩ := Option.map_eq_some_iff.mp hnext
    obtain ⟨hagent, hwaits⟩ := Prod.mk.inj hpair
    have hne : id ≠ next := by
      rintro rfl
      obtain rfl := Option.mem_unique hcall hwaiter
      simp [Call.stage, howing] at hwaits
    refine .inr ⟨next, queue, hqueue, by simp, ?_⟩
    simp [stages, hne, hwaiter, hagent, offered_of_ready hwaits]

omit [DecidableEq Ctx] in
/-- **A step of a pending cancelled call** hands the permit on, or the call comes nearer to it. -/
theorem pending_step {move : Move} (h : w.Stages) (hcall : w.calls[id]? = some call)
    (hpending : call.pending = true) (hcanceled : w.canceled call.ctx = true)
    (htakes : Takes w id call move w') :
    HandedOn call.agent w w' ∨
      ∃ phase, w'.calls[id]? = some { call with phase } ∧
        Call.pending { call with phase } = true ∧
        Call.rank { call with phase } < call.rank := by
  have hto : ∀ phase, (w.to id phase).calls[id]? = some { call with phase } := fun phase => by
    simp [World.to, hcall]
  cases htakes with
  | wake hphase =>
    exact .inr ⟨.woken, hto _, by simp [Call.pending, Call.stage], by simp [Call.rank, hphase]⟩
  | declines hphase =>
    exact .inr ⟨.owing, hto _, by simp [Call.pending, Call.stage], by simp [Call.rank, hphase]⟩
  | returns _ hlive => simp [hcanceled] at hlive
  | giveUp hphase =>
    refine .inr ⟨.leaving, hto _, ?_, by simp [Call.rank, hphase]⟩
    simpa [Call.pending, Call.stage, hphase] using hpending
  | leaves _ hin =>
    have hwaits := (h.queued _ _).mp hin
    rw [stages_of hcall] at hwaits
    simp [Call.pending, (Prod.mk.inj (Option.some.inj hwaits)).2] at hpending
  | owes hphase =>
    exact .inr ⟨.owing, hto _, by simp [Call.pending, Call.stage], by simp [Call.rank, hphase]⟩
  | giveBack hphase => exact .inl (handedOn_release h hcall hphase)
  | release hphase => simp [Call.pending, Call.stage, hphase] at hpending
  | again hphase => obtain hphase | hphase := hphase <;>
      simp [Call.pending, Call.stage, hphase] at hpending
  | finish hphase => simp [Call.pending, Call.stage, hphase] at hpending

theorem pending_other {act : Act Agent Ctx} (hcall : w.calls[id]? = some call)
    (hpending : call.pending = true) (hact : w.act act = some w')
    (hother : ∀ move, act ≠ .call id move) :
    ∃ ready, w'.calls[id]? = some { call with ready } ∧
      Call.pending { call with ready } = true ∧ Call.rank { call with ready } = call.rank := by
  obtain ⟨phase, ready, hnext, -, hphase, hready⟩ := World.act_calls hact hcall
  obtain rfl := hphase hother
  refine ⟨ready, hnext, ?_, rfl⟩
  revert hpending
  cases hphase : call.phase <;> simp [Call.pending, Call.stage, hphase] <;> grind

def World.run (w : World Agent Ctx) : List (Act Agent Ctx) → Option (World Agent Ctx)
  | [] => some w
  | act :: acts => (w.act act).bind fun w' => w'.run acts

def Act.isOf (id : CallId) : Act Agent Ctx → Bool
  | .call id' _ => id' = id
  | _ => false

/-- **The run lemma.** In a run in which a pending cancelled call takes its steps, one of them
hands the permit on. -/
theorem handedOn_of_run (acts : List (Act Agent Ctx)) {wₙ : World Agent Ctx} (h : w.Stages)
    (hcall : w.calls[id]? = some call) (hpending : call.pending = true)
    (hcanceled : w.canceled call.ctx = true) (hrun : w.run acts = some wₙ)
    (hown : call.rank ≤ acts.countP (Act.isOf id)) :
    ∃ before move after w₁ w₂, acts = before ++ .call id move :: after ∧
      w.run before = some w₁ ∧ w₁.act (.call id move) = some w₂ ∧ w₂.run after = some wₙ ∧
      HandedOn call.agent w₁ w₂ := by
  induction acts generalizing w call with
  | nil =>
    have hzero : call.rank = 0 := Nat.le_zero.mp hown
    revert hpending hzero
    cases hphase : call.phase <;> simp [Call.pending, Call.stage, Call.rank, hphase]
  | cons act acts ih =>
    obtain ⟨w', hact, hrest⟩ := Option.bind_eq_some_iff.mp hrun
    have hstages := h.act hact
    -- the rest of the run, from a state in which the call is still pending
    have hlater : ∀ call' : Call Agent Ctx, w'.calls[id]? = some call' → call'.pending = true →
        call'.agent = call.agent → call'.ctx = call.ctx →
        call'.rank ≤ acts.countP (Act.isOf id) → _ := fun call' hcall' hpending' hagent hctx hle =>
      ih hstages hcall' hpending' (hctx ▸ World.act_canceled hact hcanceled) hrest hle
    by_cases hmine : ∃ move, act = .call id move
    · obtain ⟨move, rfl⟩ := hmine
      obtain ⟨call₁, hcall₁, hmove⟩ := Option.bind_eq_some_iff.mp hact
      obtain rfl := Option.mem_unique hcall hcall₁
      obtain hon | ⟨phase, hcall', hpending', hrank⟩ :=
        pending_step h hcall hpending hcanceled (takes_of_move hmove)
      · exact ⟨[], move, acts, w, w', rfl, rfl, hact, hrest, hon⟩
      · have hcount : (Act.call id move :: acts).countP (Act.isOf id) =
            acts.countP (Act.isOf id) + 1 := List.countP_cons_of_pos (by simp [Act.isOf])
        obtain ⟨before, move', after, w₁, w₂, rfl, hbefore, hstep, hafter, hon⟩ :=
          hlater _ hcall' hpending' rfl rfl (by omega)
        exact ⟨.call id move :: before, move', after, w₁, w₂, rfl,
          Option.bind_eq_some_iff.mpr ⟨w', hact, hbefore⟩, hstep, hafter, hon⟩
    · have hother : ∀ move, act ≠ .call id move := fun move heq => hmine ⟨move, heq⟩
      obtain ⟨ready, hcall', hpending', hrank⟩ := pending_other hcall hpending hact hother
      have hcount : (act :: acts).countP (Act.isOf id) = acts.countP (Act.isOf id) := by
        refine List.countP_cons_of_neg ?_
        cases act <;> simp [Act.isOf]
        rintro rfl
        exact hother _ rfl
      obtain ⟨before, move', after, w₁, w₂, rfl, hbefore, hstep, hafter, hon⟩ :=
        hlater _ hcall' hpending' rfl rfl (by omega)
      exact ⟨act :: before, move', after, w₁, w₂, rfl,
        Option.bind_eq_some_iff.mpr ⟨w', hact, hbefore⟩, hstep, hafter, hon⟩

/-! ### The law -/

theorem stages_reachable (h : (gate : System (World Agent Ctx) _).Reachable w) : w.Stages := by
  refine System.invariant World.Stages ?_ (fun _ _ _ hact h => h.act hact) h
  rintro _ rfl
  exact sound_new

theorem declined_reachable (h : (gate : System (World Agent Ctx) _).Reachable w) :
    w.Declined := by
  refine System.invariant World.Declined ?_ (fun _ _ _ hact h => h.act hact) h
  rintro _ rfl id call hcall
  simp [World.new] at hcall

theorem later_of_steps (h : (gate : System (World Agent Ctx) _).Reachable w)
    (hsteps : gate.Steps w w') : Later w w' :=
  System.along_run Later.refl (fun _ _ _ => Later.trans) (fun _ _ _ _ hact => Later.of_act hact)
    h hsteps

omit [DecidableEq Agent] [DecidableEq Ctx] in
theorem World.Stages.mem_returned (h : w.Stages) (hcall : w.calls[id]? = some call) :
    id ∈ w.returned ↔ call.stage.got = true := by
  rw [h.got id, stages_of hcall]
  grind

/-- What the gate guarantees in a state. -/
structure GateLaw (w : World Agent Ctx) : Prop where
  /-- At most one call of an Agent holds the permit. -/
  oneHolder : ∀ (id id' : CallId) (call call' : Call Agent Ctx), w.calls[id]? = some call →
    w.calls[id']? = some call' → call.agent = call'.agent → call.stage = .held →
    call'.stage = .held → id = id'
  /-- The calls of an Agent obtain it in the order in which they came. -/
  inOrder : w.returned.Pairwise fun id id' => ∀ call call' : Call Agent Ctx,
    w.calls[id]? = some call → w.calls[id']? = some call' → call.agent = call'.agent → id < id'
  /-- A call that one behind it overtook was cancelled, and has left the queue. -/
  skipped : ∀ (id id' : CallId) (call call' : Call Agent Ctx), w.calls[id]? = some call →
    w.calls[id']? = some call' → call.agent = call'.agent → id < id' → id' ∈ w.returned →
    id ∉ w.returned →
    (call.phase = .owing ∨ call.phase = .refused) ∧ w.canceled call.ctx = true
  /-- A call that is cancelled before it has returned never obtains it. -/
  canceled : ∀ (id : CallId) (call : Call Agent Ctx), w.calls[id]? = some call →
    id ∉ w.returned → w.canceled call.ctx = true →
    ∀ w', gate.Steps w w' → id ∉ w'.returned
  /-- No permit is lost: while an Agent is active, one call has it. -/
  borne : ∀ agent, w.active agent = true ↔ ∃ (id : CallId) (call : Call Agent Ctx),
    w.calls[id]? = some call ∧ call.agent = agent ∧ (call.stage = .held ∨ call.pending = true)
  /-- A cancelled call that was offered the permit can go on. -/
  goesOn : ∀ (id : CallId) (call : Call Agent Ctx), w.calls[id]? = some call →
    call.pending = true → w.canceled call.ctx = true →
    ∃ move w', w.act (.call id move) = some w'
  /-- And within three steps of its own, whatever the others do, it hands the permit on. -/
  handedOn : ∀ (id : CallId) (call : Call Agent Ctx), w.calls[id]? = some call →
    call.pending = true → w.canceled call.ctx = true →
    ∀ acts wₙ, w.run acts = some wₙ → 3 ≤ acts.countP (Act.isOf id) →
      ∃ before move after w₁ w₂, acts = before ++ .call id move :: after ∧
        w.run before = some w₁ ∧ w₁.act (.call id move) = some w₂ ∧ w₂.run after = some wₙ ∧
        HandedOn call.agent w₁ w₂
  /-- An Agent whose permit nobody has, has no waiter. -/
  idle : ∀ agent, (∀ (id : CallId) (call : Call Agent Ctx), w.calls[id]? = some call →
      call.agent = agent → call.stage ≠ .held ∧ call.pending = false) →
    w.queues agent = [] ∧ ∀ (id : CallId) (call : Call Agent Ctx), w.calls[id]? = some call →
      call.agent = agent → call.stage ≠ .waiting

omit [DecidableEq Agent] [DecidableEq Ctx] in
theorem Call.bears_stage (call : Call Agent Ctx) :
    call.stage.bears = true ↔ call.stage = .held ∨ call.pending = true := by
  cases hstage : call.stage <;> simp [Stage.bears, Call.pending, hstage]

omit [DecidableEq Agent] [DecidableEq Ctx] in
theorem Call.rank_le (call : Call Agent Ctx) : call.rank ≤ 3 := by
  unfold Call.rank
  split <;> omega

/-- **The execution gate** serves the calls of each Agent one at a time and in order, and loses no
permit to a cancellation, whatever the interleaving. -/
theorem gate_law (h : (gate : System (World Agent Ctx) _).Reachable w) : GateLaw w := by
  have hstages := stages_reachable h
  have hdeclined := declined_reachable h
  -- an Agent is active when a call bears it
  have hborne : ∀ agent, w.active agent = true ↔ ∃ (id : CallId) (call : Call Agent Ctx),
      w.calls[id]? = some call ∧ call.agent = agent ∧
        (call.stage = .held ∨ call.pending = true) := by
    intro agent
    constructor
    · intro hactive
      obtain ⟨id, s, hview, hbears⟩ := hstages.borne agent hactive
      obtain ⟨call, hcall, hpair⟩ := Option.map_eq_some_iff.mp hview
      obtain ⟨hagent, rfl⟩ := Prod.mk.inj hpair
      exact ⟨id, call, hcall, hagent, call.bears_stage.mp hbears⟩
    · rintro ⟨id, call, hcall, rfl, hbears⟩
      exact hstages.taken _ id _ (stages_of hcall) (call.bears_stage.mpr hbears)
  exact {
    oneHolder := fun id id' call call' hcall hcall' hagent hheld hheld' =>
      hstages.one _ id id' _ _ (stages_of hcall) (by simp [hheld, Stage.bears])
        (hagent ▸ stages_of hcall') (by simp [hheld', Stage.bears])
    inOrder := hstages.order.imp fun {id id'} hlt call call' hcall hcall' hagent =>
      hlt call.agent _ _ (stages_of hcall) (hagent ▸ stages_of hcall')
    skipped := by
      intro id id' call call' hcall hcall' hagent hlt hin hout
      have hview' := stages_of hcall'
      rw [hstages.mem_returned hcall'] at hin
      rw [hstages.mem_returned hcall] at hout
      -- an earlier call that waits would have been served first
      have hqueued : call.stage ≠ .waiting := fun hwaits => Nat.lt_asymm hlt
        (hstages.ahead call.agent id' id _ (hagent ▸ hview') (.inr hin) (hwaits ▸ stages_of hcall))
      have hoffered : call.stage ≠ .offered := fun hoffer => Nat.lt_asymm hlt
        (hstages.first call.agent id' id _ (hagent ▸ hview') hin (hoffer ▸ stages_of hcall))
      have hphase : call.phase = .owing ∨ call.phase = .refused := by
        cases hphase : call.phase <;> cases hready : call.ready <;>
          simp_all [Call.stage, Stage.got]
      exact ⟨hphase, hdeclined id call hcall (.inr hphase)⟩
    canceled := by
      intro id call hcall hout hcanceled w' hsteps
      obtain ⟨call', hcall', -, -, hgot⟩ := (later_of_steps h hsteps).call id call hcall
      have hstages' := stages_reachable (System.reachable_steps h hsteps)
      rw [hstages.mem_returned hcall] at hout
      rw [hstages'.mem_returned hcall']
      simp [hgot hcanceled (Bool.eq_false_iff.mpr hout)]
    borne := hborne
    goesOn := fun id call => act_of_pending
    handedOn := fun id call hcall hpending hcanceled acts wₙ hrun hown =>
      handedOn_of_run acts hstages hcall hpending hcanceled hrun (Nat.le_trans call.rank_le hown)
    idle := by
      intro agent hnobody
      have hidle : w.active agent = false := by
        refine Bool.eq_false_iff.mpr fun hactive => ?_
        obtain ⟨id, call, hcall, hagent, hbears⟩ := (hborne agent).mp hactive
        obtain ⟨hheld, hpending⟩ := hnobody id call hcall hagent
        simp [hheld, hpending] at hbears
      have hempty := hstages.free agent hidle
      refine ⟨hempty, ?_⟩
      rintro id call hcall rfl hwaits
      have hin := (hstages.queued call.agent id).mpr (hwaits ▸ stages_of hcall)
      simp [hempty] at hin }

/-! ### A run -/

theorem steps_of_run {acts : List (Act Agent Ctx)} (hrun : w.run acts = some w') :
    gate.Steps w w' := by
  induction acts generalizing w with
  | nil => exact Option.some.inj hrun ▸ .refl
  | cons act acts ih =>
    obtain ⟨w₁, hact, hrest⟩ := Option.bind_eq_some_iff.mp hrun
    exact .head ⟨act, hact⟩ (ih hrest)

/-- Three calls for one Agent; the second is cancelled as the first releases, and the third gets
the permit. -/
def sampleActs : List (Act Nat Nat) :=
  [.acquire 7 0, .acquire 7 1, .acquire 7 2, .call 0 .release, .call 0 .finish, .cancel 1,
    .call 1 .giveUp, .call 1 .withdraw, .call 1 .giveBack, .call 2 .wake, .call 2 .check]

theorem sampleActs_run : (World.new.run sampleActs).isSome = true := by decide

theorem gate_law_sample :
    GateLaw ((World.new.run sampleActs).get sampleActs_run) ∧
      ((World.new.run sampleActs).get sampleActs_run).returned = [0, 2] :=
  ⟨gate_law ⟨World.new, rfl, steps_of_run (Option.some_get sampleActs_run).symm⟩, by decide⟩

end AgentRoom.Gate
