import AgentRoom.Run.Handoffs
import AgentRoom.Lib.LinkOnce
import Mathlib.Data.Set.Card

/-!
# The law of handoffs

A child is written only after its chain of parents was walked, so every chain of handoffs is
bounded when it is written, and rows keep their parents. No walk runs out: a chain is never longer
than the table.
-/

namespace AgentRoom

open Tx

/-- A Run that was handed its work. The other Runs with a parent are Discussion turns. -/
def RunRecord.IsHandoff (run : RunRecord) : Prop :=
  run.parentRunId ≠ none ∧ run.orchestrationKey = none

namespace Collaboration

open Lineage (Kept RunsKept)

variable {services : Services}

/-! ## Chains of parents -/

/-- **The Agents of a Run and of its parents**, up to the first, where `P` holds of every child. -/
inductive Chain (P : RunRecord → Prop) (runs : Table RunId RunRecord) :
    RunId → List AgentId → Prop
  | root {id : RunId} {run : RunRecord} (get : runs.get id = some run)
      (first : run.parentRunId = none) : Chain P runs id [run.targetAgentId]
  | child {id parentRunId : RunId} {run : RunRecord} {rest : List AgentId}
      (get : runs.get id = some run) (parent : run.parentRunId = some parentRunId) (holds : P run)
      (chain : Chain P runs parentRunId rest) : Chain P runs id (run.targetAgentId :: rest)

/-- A chain of parents, whatever they are. -/
abbrev Parents : Table RunId RunRecord → RunId → List AgentId → Prop := Chain fun _ => True

section Chains

variable {P : RunRecord → Prop} {runs : Table RunId RunRecord} {id : RunId} {agents : List AgentId}

theorem Chain.length_pos (h : Chain P runs id agents) :
    1 ≤ agents.length := by
  cases h with
  | root get first => exact Nat.le_refl 1
  | child get parent holds chain => exact Nat.succ_le_succ (Nat.zero_le _)

/-- A Run has one chain. -/
theorem Chain.unique {Q : RunRecord → Prop} {agents' : List AgentId} (h : Chain P runs id agents)
    (h' : Chain Q runs id agents') : agents = agents' := by
  induction h generalizing agents' with
  | root get first =>
    cases h' with
    | root get' _ => rw [Option.mem_unique get get']
    | child get' parent _ _ =>
      obtain rfl := Option.mem_unique get get'
      rw [first] at parent
      cases parent
  | child get parent _ _ ih =>
    cases h' with
    | root get' first =>
      obtain rfl := Option.mem_unique get get'
      rw [first] at parent
      cases parent
    | child get' parent' _ chain' =>
      obtain rfl := Option.mem_unique get get'
      obtain rfl := Option.mem_unique parent parent'
      rw [ih chain']

variable {db' : Central}

theorem Chain.kept {db : Central} (hP : ∀ run run', Kept run run' → P run → P run')
    (hkept : RunsKept db db') (h : Chain P db.runs id agents) : Chain P db'.runs id agents := by
  induction h with
  | root get first =>
    obtain ⟨run', get', hrun⟩ := hkept _ _ get
    rw [← hrun.targetAgentId]
    exact .root get' (hrun.parentRunId.trans first)
  | child get parent holds _ ih =>
    obtain ⟨run', get', hrun⟩ := hkept _ _ get
    rw [← hrun.targetAgentId]
    exact .child get' (hrun.parentRunId.trans parent) (hP _ _ hrun holds) ih

theorem parents_kept {db : Central} (hkept : RunsKept db db') (h : Parents db.runs id agents) :
    Parents db'.runs id agents :=
  h.kept (fun _ _ _ _ => trivial) hkept

variable {fuel : Nat}

/-- The walk returns the chain. -/
theorem parents_of_ancestry {run : RunRecord} (hget : runs.get id = some run)
    (h : ancestry runs fuel run = .ok agents) :
    Parents runs id agents := by
  induction fuel generalizing run id agents with
  | zero => cases h
  | succ fuel ih =>
    unfold ancestry at h
    cases hparent : run.parentRunId with
    | none =>
      rw [hparent] at h
      obtain rfl := Except.ok.inj h
      exact .root hget hparent
    | some parentRunId =>
      rw [hparent] at h
      cases hrow : runs.get parentRunId with
      | none =>
        simp only [hrow] at h
        cases h
      | some parent =>
        simp only [hrow] at h
        obtain ⟨rest, hrest, h⟩ := Except.of_bind h
        obtain rfl := Except.ok.inj h
        exact .child hget hparent trivial (ih hrow hrest)

/-- The walk of a chain that is not longer than it may go ends. -/
theorem ancestry_of_parents (h : Parents runs id agents) {run : RunRecord}
    (hget : runs.get id = some run) (hfuel : agents.length ≤ fuel) :
    ancestry runs fuel run = .ok agents := by
  induction h generalizing fuel run with
  | root get first =>
    obtain rfl := Option.mem_unique get hget
    cases fuel with
    | zero => cases hfuel
    | succ fuel =>
      unfold ancestry
      rw [first]
      rfl
  | child get parent _ chain ih =>
    obtain rfl := Option.mem_unique get hget
    cases fuel with
    | zero => cases hfuel
    | succ fuel =>
      -- the parent of a chain is a row
      obtain ⟨row, hrow⟩ : ∃ row, runs.get _ = some row := by
        cases chain with
        | root get _ => exact ⟨_, get⟩
        | child get _ _ _ => exact ⟨_, get⟩
      unfold ancestry
      rw [parent]
      simp only [hrow]
      rw [ih hrow (Nat.le_of_succ_le_succ hfuel)]
      rfl

end Chains

/-! ## What a request does -/

variable {α : Type} {a : α}

theorem onLineage_ok {x : Tx Lineage Err α} {s s' : Collaboration}
    (h : onLineage x s = (.ok a, s')) :
    ∃ lineage, x s.lineage = (.ok a, lineage) ∧ s' = { s with lineage } := by
  obtain ⟨hres, rfl⟩ := Prod.mk.inj h
  exact ⟨_, Prod.ext hres rfl, rfl⟩

variable {x : Except Err α}

theorem onLineage_check_ok {s s' : Collaboration}
    (h : onLineage (Lineage.check x) s = (.ok a, s')) :
    x = .ok a ∧ s' = s := by
  obtain ⟨lineage, hcheck, rfl⟩ := onLineage_ok h
  obtain ⟨hres, rfl⟩ := Lineage.check_ok hcheck
  exact ⟨hres, rfl⟩

/-- **What the chain of the parent says of a child**, under a depth limit. -/
structure Bounded (s : Collaboration) (limit : Nat) (parent : RunRecord)
    (targetAgentId : AgentId) (agents : List AgentId) : Prop where
  walked : ancestry s.central.runs s.central.runs.rows.length parent = .ok agents
  depth : agents.length - 1 < limit
  unvisited : targetAgentId ∉ agents
  few : (targetAgentId :: agents).dedup.length ≤ maximumUniqueAgents

variable {parent : RunRecord} {targetAgentId : AgentId} {u : Unit} {limit : Nat}

theorem boundedLineage_ok {s : Collaboration}
    (h : s.boundedLineage limit parent targetAgentId = .ok u) :
    ∃ agents, Bounded s limit parent targetAgentId agents := by
  unfold boundedLineage at h
  obtain ⟨agents, hwalked, h⟩ := Except.of_bind h
  obtain ⟨hdepth, h⟩ := Except.of_require h
  obtain ⟨hunvisited, h⟩ := Except.of_require h
  exact ⟨agents, hwalked, hdepth, hunvisited, Except.require_eq_ok.mp h⟩

theorem availableTarget_ok {s : Collaboration} {policy : RoomPolicy}
    (h : s.availableTarget parent targetAgentId = .ok policy) :
    s.policies.get parent.roomId = some policy ∧
      (s.central.agents.get targetAgentId).isSome = true := by
  unfold availableTarget at h
  obtain ⟨found, hpolicy, h⟩ := Except.of_demand h
  obtain ⟨target, htarget, h⟩ := Except.of_demand h
  obtain ⟨task, -, h⟩ := Except.of_demand h
  obtain ⟨-, h⟩ := Except.of_require h
  obtain rfl := Except.ok.inj h
  exact ⟨hpolicy, by rw [htarget]; rfl⟩

/-- **A child is written**: one new Run beside the other rows, of a known Agent, within the bounds
of its chain and of its Room. -/
structure Handed (parent : RunRecord) (targetAgentId : AgentId) (run : RunRecord)
    (s s' : Collaboration) : Prop where
  fresh : s.central.runs.get run.runId = none
  central : ∃ manifests nextId, s'.central =
    { s.central with
      runs := s.central.runs.put run.runId run
      contextManifests := manifests
      nextId }
  parentRunId : run.parentRunId = some parent.runId
  orchestrationKey : run.orchestrationKey = none
  triggerMessageId : run.triggerMessageId = parent.triggerMessageId
  target : run.targetAgentId = targetAgentId
  only : ∀ other ∈ s.central.runs.rows, ¬ (other.triggerMessageId = run.triggerMessageId ∧
    other.targetAgentId = run.targetAgentId)
  known : (s.central.agents.get targetAgentId).isSome = true
  bounded : ∃ policy agents, s.policies.get parent.roomId = some policy ∧
    Bounded s policy.maxAgentMentionDepth parent targetAgentId agents ∧
    s'.limits = s.limits.put run.runId policy.maxAgentMentionDepth
  routed : s'.routed = s.routed

variable {request : RunRequest}

theorem checkRunInsert_ok {s : Lineage} (h : s.checkRunInsert request = .ok u) :
    ∀ other ∈ s.central.runs.rows,
      ¬ (other.triggerMessageId = request.triggerMessageId ∧
        other.targetAgentId = request.targetAgentId) := by
  unfold Lineage.checkRunInsert at h
  iterate 4 obtain ⟨-, h⟩ := Except.of_require h
  exact Except.require_eq_ok.mp h

/-- **What `createChild` does.** -/
theorem createChild_cases (services : Services) (parent : RunRecord) (targetAgentId : AgentId)
    (instruction : String) (now : Time) (s : Collaboration) :
    (∃ e, createChild services parent targetAgentId instruction now s = (.error e, s)) ∨
    (∃ run s', Handed parent targetAgentId run s s' ∧
      createChild services parent targetAgentId instruction now s = (.ok (some run), s')) := by
  unfold createChild
  rcases immediate_cases _ s with ⟨e, he⟩ | ⟨answer, s', hrun, hok⟩
  · exact .inl ⟨e, he⟩
  · right
    rw [hok]
    rw [get_bind] at hrun
    -- the checks, in their order; they change nothing
    obtain ⟨policy, s₁, havailable₀, hrest₁⟩ := ok_of_bind hrun
    obtain ⟨havailable, rfl⟩ := onLineage_check_ok havailable₀
    obtain ⟨hpolicy, hknown⟩ := availableTarget_ok havailable
    obtain ⟨_, s₂, hbounded₀, hrest₂⟩ := ok_of_bind hrest₁
    obtain ⟨hbounded₁, rfl⟩ := onLineage_check_ok hbounded₀
    obtain ⟨agents, hbounded⟩ := boundedLineage_ok hbounded₁
    -- a fresh id, and the Run under it
    obtain ⟨runId, s₃, hid₀, hrest₃⟩ := ok_of_bind hrest₂
    obtain ⟨lineage₁, hid₁, rfl⟩ := onLineage_ok hid₀
    obtain ⟨central₁, hid, rfl⟩ := Lineage.onCentral_ok hid₁
    obtain ⟨-, rfl⟩ := Prod.mk.inj hid
    obtain ⟨_, s₄, hcreate₀, hrest₄⟩ := ok_of_bind hrest₃
    obtain ⟨lineage₂, hcreate, rfl⟩ := onLineage_ok hcreate₀
    obtain ⟨hinsert, hfresh, -, -, run, manifests, hrow, hcentral⟩ := Lineage.createRun_ok hcreate
    obtain ⟨hres, rfl⟩ := Prod.mk.inj hrest₄
    obtain rfl := Except.ok.inj hres
    -- the limit is stored with the child
    refine ⟨run, { s₂ with
      lineage := lineage₂
      limits := s₂.limits.put runId policy.maxAgentMentionDepth },
    ⟨?_, ?_, hrow.parentRunId, hrow.orchestrationKey,
      hrow.triggerMessageId, hrow.targetAgentId, ?_, hknown,
      ⟨policy, agents, hpolicy, hbounded, ?_⟩, rfl⟩, ?_⟩
    · rw [hrow.runId]
      exact hfresh
    · rw [hrow.runId]
      exact ⟨manifests, _, hcentral⟩
    · rw [hrow.triggerMessageId, hrow.targetAgentId]
      exact checkRunInsert_ok hinsert
    · rw [hrow.runId]
      rfl
    · have hget : lineage₂.central.runs.get runId = some run := by
        rw [hcentral]
        exact Table.get_put_self _ _ _
      exact Prod.ext (congrArg Except.ok hget) rfl

/-! ## Programs that hand off -/

/-- **A write of the routing of replies.** -/
inductive Routes : Collaboration → Collaboration → Prop
  | handed {s s' : Collaboration} {parent run : RunRecord} {targetAgentId : AgentId}
      (get : s.central.runs.get parent.runId = some parent)
      (h : Handed parent targetAgentId run s s') : Routes s s'
  | marked {s : Collaboration} (routed : List (RunId × Nat)) : Routes s { s with routed }

variable {s s' : Collaboration} {run : RunRecord}

theorem Handed.runs (h : Handed parent targetAgentId run s s') :
    s'.central.runs = s.central.runs.put run.runId run := by
  obtain ⟨manifests, nextId, hcentral⟩ := h.central
  rw [hcentral]

variable {id : RunId}

theorem Routes.get (h : Routes s s') (hget : s.central.runs.get id = some run) :
    s'.central.runs.get id = some run := by
  cases h with
  | handed _ h =>
    have hne : id ≠ _ := fun heq => by
      rw [heq, h.fresh] at hget
      cases hget
    rw [h.runs, Table.get_put_ne _ _ hne, hget]
  | marked routed => exact hget

theorem Routes.keyed (h : Routes s s') (hk : Keyed s.central) : Keyed s'.central := by
  cases h with
  | handed _ h =>
    intro id run hget
    rw [h.runs, Table.get_put] at hget
    split at hget
    · next heq => rw [← Option.some.inj hget, heq]
    · exact hk id run hget
  | marked routed => exact hk

/-- **What routing leaves alone**: the events, the messages and what projects them. -/
structure Beside (s s' : Collaboration) : Prop where
  runEvents : s'.central.runEvents = s.central.runEvents
  messages : s'.central.messages = s.central.messages
  projections : s'.central.projections = s.central.projections
  routingIntents : s'.central.routingIntents = s.central.routingIntents
  agents : s'.central.agents = s.central.agents

theorem Beside.refl (s : Collaboration) : Beside s s := ⟨rfl, rfl, rfl, rfl, rfl⟩

theorem Beside.trans {a b c : Collaboration} (h₁ : Beside a b) (h₂ : Beside b c) : Beside a c :=
  ⟨h₂.runEvents.trans h₁.runEvents, h₂.messages.trans h₁.messages,
    h₂.projections.trans h₁.projections, h₂.routingIntents.trans h₁.routingIntents,
    h₂.agents.trans h₁.agents⟩

theorem Routes.beside (h : Routes s s') : Beside s s' := by
  cases h with
  | handed _ h =>
    obtain ⟨manifests, nextId, hcentral⟩ := h.central
    constructor <;> rw [hcentral]
  | marked routed => exact ⟨rfl, rfl, rfl, rfl, rfl⟩

theorem check_bind_along {β : Type} {r : Collaboration → Collaboration → Prop}
    {f : α → Tx Collaboration Err β} (h : ∀ a, x = .ok a → Along r (f a) s) :
    Along r (onLineage (Lineage.check x) >>= f) s := by
  cases x with
  | ok a => exact h a rfl
  | error e => exact .refl

variable {now : Time} {instruction : String}

theorem createChild_along (hget : s.central.runs.get parent.runId = some parent) :
    Along Routes (createChild services parent targetAgentId instruction now) s := by
  unfold Along
  rcases createChild_cases services parent targetAgentId instruction now s with
    ⟨e, h⟩ | ⟨run, s', hhanded, h⟩
  · rw [h]
  · rw [h]
    exact .single (.handed hget hhanded)

variable {principal : McpPrincipal} {input : HandoffInput}

theorem requested_ok (h : s.requested principal input = .ok (parent, instruction)) :
    s.central.runs.get input.parentRunId = some parent := by
  unfold requested at h
  obtain ⟨-, h⟩ := Except.of_require h
  obtain ⟨found, hfound, h⟩ := Except.of_demand h
  obtain ⟨target, -, h⟩ := Except.of_demand h
  obtain ⟨room, -, h⟩ := Except.of_demand h
  obtain ⟨policy, -, h⟩ := Except.of_demand h
  obtain ⟨-, h⟩ := Except.of_require h
  obtain ⟨-, h⟩ := Except.of_require h
  obtain ⟨rfl, -⟩ := Prod.mk.inj (Except.ok.inj h)
  exact hfound

theorem create_along (hk : Keyed s.central) :
    Along Routes (create services principal input now) s := by
  refine along_bind_get (check_bind_along fun asked hasked => ?_)
  obtain ⟨parent, instruction⟩ := asked
  have hget := requested_ok hasked
  exact createChild_along ((hk _ _ hget).symm ▸ hget)

variable {content : String}

theorem handOff_along (hget : s.central.runs.get parent.runId = some parent) :
    Along Routes (handOff services parent content now targetAgentId) s := by
  refine along_tryCatch (createChild_along hget) fun e s' _ => along_bind_get ?_
  split
  · exact along_pure _
  · split
    · exact along_pure _
    · exact along_throw _

theorem createFromReply_along {parentRunId : RunId} (hk : Keyed s.central) :
    Along Routes (createFromReply services parentRunId content now) s := by
  refine along_bind_get ?_
  cases hget : s.central.runs.get parentRunId with
  | none => exact along_pure _
  | some parent =>
    obtain rfl := hk _ _ hget
    refine along_bind ?_ fun created s' _ => along_pure _
    exact along_forEach (fun s => s.central.runs.get parent.runId = some parent)
      (fun _ _ h => h.get) _ (fun target _ s hs => handOff_along hs) hget

variable {runId : RunId}

theorem routeAgentReplyMentions_along (hk : Keyed s.central) :
    Along Routes (routeAgentReplyMentions services runId now) s := by
  refine along_bind_get ?_
  refine along_forEach (fun s => Keyed s.central) (fun _ _ h => h.keyed) _
    (fun intent _ s hs => ?_) hk
  refine along_bind_get ?_
  dsimp only
  split
  · exact along_modify (Routes.marked _)
  · exact along_bind (createFromReply_along hs) fun _ s' _ => along_modify (Routes.marked _)

/-! ## The invariant -/

/-- **What stays of a state**: its Runs, and the limits they were handed off under. -/
structure Grows (s s' : Collaboration) : Prop where
  runs : RunsKept s.central s'.central
  limits : ∀ id run, s.central.runs.get id = some run → s'.limits.get id = s.limits.get id

theorem Grows.refl (s : Collaboration) : Grows s s := ⟨Lineage.runsKept_refl _, fun _ _ _ => rfl⟩

variable {b c : Collaboration}

theorem Grows.trans {a : Collaboration} (h₁ : Grows a b) (h₂ : Grows b c) : Grows a c := by
  refine ⟨Lineage.runsKept_trans h₁.runs h₂.runs, fun id run hget => ?_⟩
  obtain ⟨run', hget', -⟩ := h₁.runs id run hget
  rw [h₂.limits id run' hget', h₁.limits id run hget]

/-- **A contained handoff**: the chain it was added to, and the limit it was added under. -/
structure Contained (s : Collaboration) (run parent : RunRecord) (rest : List AgentId)
    (limit : Nat) : Prop where
  parentRunId : run.parentRunId = some parent.runId
  get : s.central.runs.get parent.runId = some parent
  triggerMessageId : run.triggerMessageId = parent.triggerMessageId
  chain : Parents s.central.runs parent.runId rest
  unvisited : run.targetAgentId ∉ rest
  few : (run.targetAgentId :: rest).dedup.length ≤ maximumUniqueAgents
  limited : s.limits.get run.runId = some limit
  depth : rest.length ≤ limit

structure Inv (s : Collaboration) : Prop where
  keyed : Keyed s.central
  chained : ∀ id run, s.central.runs.get id = some run →
    ∃ agents, Parents s.central.runs id agents ∧ agents.length ≤ s.central.runs.rows.length
  contained : ∀ id run, s.central.runs.get id = some run → run.IsHandoff →
    ∃ parent rest limit, Contained s run parent rest limit
  once : ∀ id id' run run', s.central.runs.get id = some run → s.central.runs.get id' = some run' →
    run.IsHandoff → run'.IsHandoff → run.triggerMessageId = run'.triggerMessageId →
    run.targetAgentId = run'.targetAgentId → id = id'

variable {run' : RunRecord}

theorem isHandoff_kept (h : Kept run run') :
    run'.IsHandoff ↔ run.IsHandoff := by
  unfold RunRecord.IsHandoff
  rw [h.parentRunId, h.orchestrationKey]

/-- A contained handoff stays so. -/
theorem Contained.grows {rest : List AgentId} (hcontained : Contained s run parent rest limit)
    (h : Grows s s') (hkept : Kept run run') (hget : s.central.runs.get run.runId = some run) :
    ∃ parent', Contained s' run' parent' rest limit := by
  obtain ⟨parent', hget', hparent⟩ := h.runs _ _ hcontained.get
  refine ⟨parent', ?_, ?_, ?_, ?_, ?_, ?_, ?_, hcontained.depth⟩
  · rw [hkept.parentRunId, hparent.runId, hcontained.parentRunId]
  · rw [hparent.runId, hget']
  · rw [hkept.triggerMessageId, hparent.triggerMessageId, hcontained.triggerMessageId]
  · rw [hparent.runId]
    exact parents_kept h.runs hcontained.chain
  · rw [hkept.targetAgentId]
    exact hcontained.unvisited
  · rw [hkept.targetAgentId]
    exact hcontained.few
  · rw [hkept.runId, h.limits _ _ hget, hcontained.limited]

/-- **A step that creates no Run.** -/
structure Quiet (s s' : Collaboration) : Prop where
  grows : Grows s s'
  keyed : Keyed s'.central
  runs : ∀ id, (s'.central.runs.get id).isSome = true → (s.central.runs.get id).isSome = true

/-- **A new Run**, with its parent if it has one. -/
structure Adds (run : RunRecord) (s s' : Collaboration) : Prop where
  fresh : s.central.runs.get run.runId = none
  runs : s'.central.runs = s.central.runs.put run.runId run
  limits : ∀ id, id ≠ run.runId → s'.limits.get id = s.limits.get id
  parent : ∀ parentRunId, run.parentRunId = some parentRunId →
    ∃ parent, s.central.runs.get parentRunId = some parent
  contained : run.IsHandoff → ∃ parent rest limit, Contained s' run parent rest limit
  only : run.IsHandoff → ∀ other ∈ s.central.runs.rows,
    ¬ (other.triggerMessageId = run.triggerMessageId ∧ other.targetAgentId = run.targetAgentId)
  known : run.IsHandoff → (s'.central.agents.get run.targetAgentId).isSome = true

variable {other : RunRecord}

theorem Adds.ne (h : Adds run s s') (hget : s.central.runs.get id = some other) :
    id ≠ run.runId := by
  rintro rfl
  rw [h.fresh] at hget
  cases hget

theorem Adds.grows (h : Adds run s s') : Grows s s' :=
  ⟨Lineage.runsKept_put h.fresh h.runs, fun id _ hget => h.limits id (h.ne hget)⟩

theorem Adds.get (h : Adds run s s') (hget : s'.central.runs.get id = some other) :
    (id = run.runId ∧ other = run) ∨ s.central.runs.get id = some other := by
  rw [h.runs, Table.get_put] at hget
  split at hget
  · next heq => exact .inl ⟨heq, (Option.some.inj hget).symm⟩
  · exact .inr hget

theorem Inv.quiet (hinv : Inv s) (h : Quiet s s') : Inv s' := by
  -- every Run was there before, with what it keeps
  have hold : ∀ id run', s'.central.runs.get id = some run' →
      ∃ run, s.central.runs.get id = some run ∧ Kept run run' := by
    intro id run' hget'
    obtain ⟨run, hget⟩ := Option.isSome_iff_exists.mp (h.runs id (by rw [hget']; rfl))
    obtain ⟨run₁, hget₁, hkept⟩ := h.grows.runs id run hget
    obtain rfl := Option.mem_unique hget₁ hget'
    exact ⟨run, hget, hkept⟩
  -- and none is lost
  have hlength : s.central.runs.rows.length ≤ s'.central.runs.rows.length := by
    refine Table.length_le_of_keys fun id hsome => ?_
    obtain ⟨run, hget⟩ := Option.isSome_iff_exists.mp hsome
    obtain ⟨run', hget', -⟩ := h.grows.runs id run hget
    rw [hget']
    rfl
  constructor
  · exact h.keyed
  · intro id run' hget'
    obtain ⟨run, hget, -⟩ := hold id run' hget'
    obtain ⟨agents, hchain, hle⟩ := hinv.chained id run hget
    exact ⟨agents, parents_kept h.grows.runs hchain, hle.trans hlength⟩
  · intro id run' hget' hhandoff
    obtain ⟨run, hget, hkept⟩ := hold id run' hget'
    obtain ⟨parent, rest, limit, hcontained⟩ :=
      hinv.contained id run hget ((isHandoff_kept hkept).mp hhandoff)
    obtain ⟨parent', hcontained'⟩ :=
      hcontained.grows h.grows hkept ((hinv.keyed _ _ hget).symm ▸ hget)
    exact ⟨parent', rest, limit, hcontained'⟩
  · intro id₁ id₂ run₁' run₂' hget₁' hget₂' hhandoff₁ hhandoff₂ htrigger htarget
    obtain ⟨run₁, hget₁, hkept₁⟩ := hold id₁ run₁' hget₁'
    obtain ⟨run₂, hget₂, hkept₂⟩ := hold id₂ run₂' hget₂'
    rw [hkept₁.triggerMessageId, hkept₂.triggerMessageId] at htrigger
    rw [hkept₁.targetAgentId, hkept₂.targetAgentId] at htarget
    exact hinv.once id₁ id₂ run₁ run₂ hget₁ hget₂ ((isHandoff_kept hkept₁).mp hhandoff₁)
      ((isHandoff_kept hkept₂).mp hhandoff₂) htrigger htarget

theorem Inv.adds (hinv : Inv s) (h : Adds run s s') : Inv s' := by
  have hlength : s'.central.runs.rows.length = s.central.runs.rows.length + 1 := by
    rw [h.runs, Table.length_put_new _ h.fresh]
  have hnew : s'.central.runs.get run.runId = some run := by rw [h.runs, Table.get_put_self]
  have hkept := h.grows.runs
  constructor
  · intro id other hget
    obtain ⟨rfl, rfl⟩ | hget := h.get hget
    · rfl
    · exact hinv.keyed id other hget
  · intro id other hget
    rw [hlength]
    obtain ⟨rfl, rfl⟩ | hget := h.get hget
    · cases hparent : other.parentRunId with
      -- a Run without a parent begins a chain
      | none => exact ⟨_, .root hnew hparent, Nat.succ_le_succ (Nat.zero_le _)⟩
      -- a child has the chain of its parent, and itself
      | some parentRunId =>
        obtain ⟨parent, hget⟩ := h.parent parentRunId hparent
        obtain ⟨rest, hchain, hle⟩ := hinv.chained parentRunId parent hget
        exact ⟨_, .child hnew hparent trivial (parents_kept hkept hchain), Nat.succ_le_succ hle⟩
    · obtain ⟨agents, hchain, hle⟩ := hinv.chained id other hget
      exact ⟨agents, parents_kept hkept hchain, Nat.le_succ_of_le hle⟩
  · intro id other hget hhandoff
    obtain ⟨rfl, rfl⟩ | hget := h.get hget
    · exact h.contained hhandoff
    · obtain ⟨parent, rest, limit, hcontained⟩ := hinv.contained id other hget hhandoff
      obtain ⟨parent', hcontained'⟩ := hcontained.grows h.grows (.refl other)
        ((hinv.keyed _ _ hget).symm ▸ hget)
      exact ⟨parent', rest, limit, hcontained'⟩
  · intro id₁ id₂ run₁ run₂ hget₁ hget₂ hhandoff₁ hhandoff₂ htrigger htarget
    obtain ⟨rfl, rfl⟩ | hold₁ := h.get hget₁ <;> obtain ⟨rfl, rfl⟩ | hold₂ := h.get hget₂
    · rfl
    · -- `only` was checked of the Runs that were there
      exact absurd ⟨htrigger.symm, htarget.symm⟩
        (h.only hhandoff₁ run₂ (Table.mem_rows.mpr ⟨id₂, hold₂⟩))
    · exact absurd ⟨htrigger, htarget⟩
        (h.only hhandoff₂ run₁ (Table.mem_rows.mpr ⟨id₁, hold₁⟩))
    · exact hinv.once id₁ id₂ run₁ run₂ hold₁ hold₂ hhandoff₁ hhandoff₂ htrigger htarget

/-! ## What a step keeps -/

/-- A child of a Run that is there is within the bounds of its chain. -/
theorem Handed.adds (h : Handed parent targetAgentId run s s')
    (hget : s.central.runs.get parent.runId = some parent) : Adds run s s' := by
  obtain ⟨policy, agents, -, hbounded, hlimits⟩ := h.bounded
  obtain ⟨manifests, nextId, hcentral⟩ := h.central
  have hchain := parents_of_ancestry hget hbounded.walked
  have hkept : RunsKept s.central s'.central := Lineage.runsKept_put h.fresh h.runs
  -- the parent is there and the child was not
  have hne : parent.runId ≠ run.runId := fun heq => by
    have hfresh := h.fresh
    rw [← heq, hget] at hfresh
    cases hfresh
  constructor
  · exact h.fresh
  · exact h.runs
  · intro id hid
    rw [hlimits, Table.get_put_ne _ _ hid]
  · intro parentRunId hparent
    obtain rfl := Option.mem_unique h.parentRunId hparent
    exact ⟨parent, hget⟩
  · intro _
    refine ⟨parent, agents, policy.maxAgentMentionDepth, h.parentRunId, ?_, h.triggerMessageId,
      parents_kept hkept hchain, h.target ▸ hbounded.unvisited, h.target ▸ hbounded.few, ?_, ?_⟩
    · rw [h.runs, Table.get_put_ne _ _ hne, hget]
    · rw [hlimits, Table.get_put_self]
    · -- the walk counts the parents of the parent
      have hpos := hchain.length_pos
      have hdepth := hbounded.depth
      omega
  · exact fun _ => h.only
  · intro _
    rw [hcentral, h.target]
    exact h.known

/-- The Agents of new handoffs are known. -/
def Known (s s' : Collaboration) : Prop :=
  ∀ id run', s'.central.runs.get id = some run' → run'.IsHandoff →
    (∃ run, s.central.runs.get id = some run) ∨
      (s'.central.agents.get run'.targetAgentId).isSome = true

theorem Adds.to_known (h : Adds run s s') : Known s s' := by
  intro id run' hget hhandoff
  obtain ⟨rfl, rfl⟩ | hold := h.get hget
  · exact .inr (h.known hhandoff)
  · exact .inl ⟨run', hold⟩

/-- **What a step keeps.** -/
structure Follows (s s' : Collaboration) : Prop where
  inv : Inv s'
  grows : Grows s s'
  known : Known s s'

theorem Follows.of_adds {run : RunRecord} (hinv : Inv s) (h : Adds run s s') : Follows s s' :=
  ⟨hinv.adds h, h.grows, h.to_known⟩

theorem Follows.of_quiet (hinv : Inv s) (h : Quiet s s') : Follows s s' :=
  ⟨hinv.quiet h, h.grows, fun id _ hget _ =>
    .inl (Option.isSome_iff_exists.mp (h.runs id (by rw [hget]; rfl)))⟩

theorem Follows.refl (hinv : Inv s) : Follows s s :=
  ⟨hinv, .refl s, fun _ run hget _ => .inl ⟨run, hget⟩⟩

theorem Routes.follows (h : Routes s s') (hinv : Inv s) : Follows s s' := by
  cases h with
  | handed hget h => exact .of_adds hinv (h.adds hget)
  | marked routed =>
    exact .of_quiet hinv ⟨⟨Lineage.runsKept_refl _, fun _ _ _ => rfl⟩, hinv.keyed, fun _ h => h⟩

theorem Follows.then {a : Collaboration} (h₁ : Follows a b) (h₂ : Follows b c)
    (hbeside : Beside b c) : Follows a c := by
  refine ⟨h₂.inv, h₁.grows.trans h₂.grows, fun id run' hget hhandoff => ?_⟩
  obtain ⟨run, hold⟩ | hknown := h₂.known id run' hget hhandoff
  · obtain ⟨run₁, hget₁, hkept⟩ := h₂.grows.runs id run hold
    obtain rfl := Option.mem_unique hget₁ hget
    rw [hkept.targetAgentId, hbeside.agents]
    exact h₁.known id run hold ((isHandoff_kept hkept).mp hhandoff)
  · exact .inr hknown

/-- **What routing keeps.** -/
theorem routing_keeps {x : Tx Collaboration Err α} (h : Along Routes x s) (hinv : Inv s) :
    Follows s (x s).2 ∧ Beside s (x s).2 := by
  unfold Along at h
  generalize (x s).2 = s' at h ⊢
  induction h with
  | refl => exact ⟨.refl hinv, .refl s⟩
  | tail _ hlast ih =>
    obtain ⟨hfollows, hbeside⟩ := ih
    exact ⟨hfollows.then (hlast.follows hfollows.inv) hlast.beside, hbeside.trans hlast.beside⟩

/-- A write of Central that creates no Run. -/
def NoRun (db db' : Central) : Prop :=
  ∀ id, (db'.runs.get id).isSome = true → (db.runs.get id).isSome = true

variable {db : Central}

theorem noRun_of_eq {db' : Central} (h : db'.runs = db.runs) : NoRun db db' := by
  intro id hsome
  rwa [h] at hsome

/-- A reply creates no Run. -/
theorem applyReply_noRun {principal : DevicePrincipal} {input : ReplyInput} :
    NoRun db (BridgeRunEventService.applyReply services principal input now db).2 := by
  refine Along.related (r := NoRun) (fun _ _ h => h) (fun _ _ _ h₁ h₂ id h => h₁ id (h₂ id h))
    (fun _ _ h => h) ?_
  refine BridgeRunEventService.requireOwnedRun_bind_along fun run _ => ?_
  refine BridgeRunEventService.require_bind_along fun _ => ?_
  refine BridgeRunEventService.require_bind_along fun _ => ?_
  refine along_immediate (along_bind ?_ fun applied db₁ _ => ?_)
  · unfold Along
    obtain ⟨e, h⟩ | ⟨run', -, -, h⟩ | ⟨run', db', happended, h⟩ :=
      RunRepository.applyRuntimeEvent_cases run.runId _ now db
    · rw [h]
    · rw [h]
    · rw [h]
      refine .single fun id hsome => ?_
      rw [happended.runs, Table.get_put] at hsome
      split at hsome
      · next heq => rw [heq, happended.get]; rfl
      · exact hsome
  · refine along_bind (along_when fun _ => ?_) fun _ db₂ _ => along_pure _
    exact (RunRepository.projectReplyMessage_side _ _ _ _).mono fun _ _ h => noRun_of_eq h.runs

theorem quiet_moves {K : Allows} (hinv : Inv s)
    (hmoves : Relation.ReflTransGen (Move K) s.central s'.central)
    (hlimits : s'.limits = s.limits) (hruns : NoRun s.central s'.central) : Quiet s s' where
  grows := ⟨Lineage.runsKept_moves hmoves, fun id _ _ => by rw [hlimits]⟩
  keyed := by
    have hkeyed := hinv.keyed
    clear hlimits hruns
    generalize s'.central = db at hmoves
    induction hmoves with
    | refl => exact hkeyed
    | tail _ hlast ih => exact keyed_move hlast ih
  runs := hruns

/-- The state once a reply is applied, and before its mentions are routed. -/
def replied (services : Services) (principal : DevicePrincipal) (input : ReplyInput) (now : Time)
    (s : Collaboration) : Collaboration :=
  (onLineage (Lineage.onCentral
    (BridgeRunEventService.applyReply services principal input now)) s).2

theorem replied_quiet (hinv : Inv s) (principal : DevicePrincipal) (input : ReplyInput)
    (now : Time) : Quiet s (replied services principal input now s) :=
  quiet_moves hinv (BridgeRunEventService.applyReply_along services hinv.keyed) rfl
    applyReply_noRun

/-- **A reply**: whatever becomes of its mentions, it is kept as it was applied. -/
theorem bridgeReply_keeps (hinv : Inv s) (principal : DevicePrincipal) (input : ReplyInput)
    (now : Time) :
    Follows s (bridgeReply services principal input now s).2 ∧
      Beside (replied services principal input now s)
        (bridgeReply services principal input now s).2 := by
  have hsame : Quiet s (replied services principal input now s) :=
    replied_quiet hinv principal input now
  have hquiet := Follows.of_quiet hinv hsame
  rcases hx : onLineage (Lineage.onCentral
    (BridgeRunEventService.applyReply services principal input now)) s with ⟨e | applied, s₁⟩
  · obtain rfl : replied services principal input now s = s₁ := congrArg Prod.snd hx
    unfold bridgeReply
    rw [bind_error hx]
    exact ⟨hquiet, .refl _⟩
  · obtain rfl : replied services principal input now s = s₁ := congrArg Prod.snd hx
    unfold bridgeReply
    rw [bind_ok hx]
    split
    · have hroutes : Along Routes (routeAgentReplyMentions services applied.run.runId now)
          (replied services principal input now s) :=
        routeAgentReplyMentions_along hquiet.inv.keyed
      obtain ⟨hfollows, hbeside⟩ := routing_keeps hroutes hquiet.inv
      exact ⟨hquiet.then hfollows hbeside, hbeside⟩
    · exact ⟨hquiet, .refl _⟩

/-- A Run without a handoff: it has no parent, or is a Discussion turn. -/
theorem start_follows (hinv : Inv s) (hstarts : s.Starts request) :
    Follows s
      (onLineage (Lineage.onCentral (RunRepository.createRuns services [request])) s).2 := by
  unfold onLineage Lineage.onCentral
  rcases immediate_cases (forEach (fun request => do
    RunRepository.insertRunIdentity request
    RunRepository.freezeContextManifest services request.runId) [request]) s.central with
    ⟨e, herror⟩ | ⟨a, db, hbody, hok⟩
  · -- refused: nothing is written
    have hrun : RunRepository.createRuns services [request] s.central = (.error e, s.central) :=
      herror
    rw [hrun]
    exact .refl hinv
  · have hrun : RunRepository.createRuns services [request] s.central = (.ok a, db) := hok
    rw [hrun]
    obtain ⟨_, db₁, hfirst, hrest⟩ := ok_of_bind hbody
    obtain ⟨_, db₂, hinsert, hfreeze⟩ := ok_of_bind hfirst
    obtain ⟨-, rfl⟩ := Prod.mk.inj hrest
    obtain ⟨hfresh, run, hrow, rfl⟩ := Lineage.insertRunIdentity_ok hinsert
    obtain ⟨manifests, rfl⟩ := Lineage.freezeContextManifest_ok hfreeze
    -- what has a parent here has the key of a Discussion turn
    have hturn : ¬ run.IsHandoff := by
      rintro ⟨hparent, hkey⟩
      rw [hrow.parentRunId] at hparent
      rw [hrow.orchestrationKey] at hkey
      obtain ⟨parentRunId, hparent⟩ := Option.ne_none_iff_exists'.mp hparent
      exact (hstarts parentRunId hparent).2 hkey
    refine @Follows.of_adds _ _ run hinv ⟨?_, ?_, fun _ _ => rfl, ?_, fun h => absurd h hturn,
      fun h => absurd h hturn, fun h => absurd h hturn⟩
    · rw [hrow.runId]
      exact hfresh
    · rw [hrow.runId]
    · intro parentRunId hparent
      rw [hrow.parentRunId] at hparent
      exact (hstarts parentRunId hparent).1

theorem retry_follows {input : RetryInput} (hinv : Inv s) :
    Follows s (onLineage (Lineage.createRetry services input) s).2 := by
  unfold onLineage
  obtain ⟨e, h⟩ | ⟨replay, -, -, h⟩ | ⟨parent, run, lineage, -, -, hretried, h⟩ :=
    Lineage.createRetry_cases services input s.lineage
  · rw [h]
    exact .refl hinv
  · rw [h]
    exact .refl hinv
  · rw [h]
    have hfirst : ¬ run.IsHandoff := fun hhandoff => hhandoff.1 hretried.parentRunId
    refine @Follows.of_adds _ _ run hinv ⟨hretried.fresh, hretried.runs, fun _ _ => rfl, ?_,
      fun h => absurd h hfirst, fun h => absurd h hfirst, fun h => absurd h hfirst⟩
    intro parentRunId hparent
    rw [hretried.parentRunId] at hparent
    cases hparent

theorem acknowledge_follows {input : AcknowledgeInput} (hinv : Inv s) :
    Follows s (onLineage (Lineage.acknowledgeAmbiguity input) s).2 := by
  have hcentral : (Lineage.acknowledgeAmbiguity input s.lineage).2.central = s.central := by
    obtain ⟨e, h⟩ | ⟨operation, -, -, h⟩ | ⟨run, lineage, -, -, -, -, hcentral, -, -, h⟩ :=
      Lineage.acknowledgeAmbiguity_cases input s.lineage
    · rw [h]
    · rw [h]
    · rw [h]
      exact hcentral
  refine .of_quiet hinv ⟨⟨?_, fun _ _ _ => rfl⟩, ?_, ?_⟩
  · exact Lineage.runsKept_of_eq (congrArg Central.runs hcentral)
  · change Keyed (Lineage.acknowledgeAmbiguity input s.lineage).2.central
    rw [hcentral]
    exact hinv.keyed
  · exact noRun_of_eq (congrArg Central.runs hcentral)

theorem follows_step {i : CollaborationStep} (hinv : Inv s)
    (h : (collaboration services).step i s s') : Follows s s' := by
  cases i with
  | start request =>
    obtain ⟨hstarts, rfl⟩ := h
    exact start_follows hinv hstarts
  | handoff principal input now =>
    have hs : s' = (create services principal input now s).2 := h
    rw [hs]
    exact (routing_keeps (create_along hinv.keyed) hinv).1
  | mentions parentRunId content now =>
    have hs : s' = (createFromReply services parentRunId content now s).2 := h
    rw [hs]
    exact (routing_keeps (createFromReply_along hinv.keyed) hinv).1
  | route runId now =>
    have hs : s' = (routeAgentReplyMentions services runId now s).2 := h
    rw [hs]
    exact (routing_keeps (routeAgentReplyMentions_along hinv.keyed) hinv).1
  | reply principal input now =>
    have hs : s' = (bridgeReply services principal input now s).2 := h
    rw [hs]
    exact (bridgeReply_keeps hinv principal input now).1
  | acknowledge input =>
    have hs : s' = (onLineage (Lineage.acknowledgeAmbiguity input) s).2 := h
    rw [hs]
    exact acknowledge_follows hinv
  | retry input =>
    have hs : s' = (onLineage (Lineage.createRetry services input) s).2 := h
    rw [hs]
    exact retry_follows hinv
  | elsewhere label =>
    obtain ⟨hcentral, hlimits, hruns⟩ := h
    exact .of_quiet hinv (quiet_moves hinv (step_moves hinv.keyed hcentral) hlimits hruns)

theorem inv_init (h : (collaboration services).init s) : Inv s := by
  have hruns : s.central.runs = .empty := h.1
  have hnone : ∀ id, s.central.runs.get id = none := fun id => by rw [hruns]; rfl
  constructor
  · intro id run hget
    rw [hnone] at hget
    cases hget
  · intro id run hget
    rw [hnone] at hget
    cases hget
  · intro id run hget
    rw [hnone] at hget
    cases hget
  · intro id id' run run' hget
    rw [hnone] at hget
    cases hget

theorem inv_reachable (h : (collaboration services).Reachable s) : Inv s :=
  System.invariant Inv (fun _ => inv_init) (fun _ _ _ hs ha => (follows_step ha hs).inv) h

/-! ## The law -/

/-- **A chain without Discussion turns repeats no Agent**: each of its children was handed its
work. -/
theorem Inv.chain_bounded (hinv : Inv s) {agents : List AgentId}
    (h : Chain (fun run => run.orchestrationKey = none) s.central.runs id agents) :
    agents.Nodup ∧ agents.length ≤ maximumUniqueAgents := by
  induction h with
  | root get first => exact ⟨List.nodup_singleton _, Nat.le_add_left 1 4⟩
  | child get hparent hturn chain ih =>
    obtain ⟨hnodup, -⟩ := ih
    obtain ⟨parent, rest, limit, hcontained⟩ :=
      hinv.contained _ _ get ⟨by rw [hparent]; exact Option.some_ne_none _, hturn⟩
    obtain rfl := Option.mem_unique hcontained.parentRunId hparent
    obtain rfl := hcontained.chain.unique chain
    have hcons := List.nodup_cons.mpr ⟨hcontained.unvisited, hnodup⟩
    exact ⟨hcons, hcons.dedup ▸ hcontained.few⟩

/-- A mention writes a child, or nothing. -/
theorem handOff_cases (services : Services) (parent : RunRecord) (content : String) (now : Time)
    (targetAgentId : AgentId) (s : Collaboration) :
    (handOff services parent content now targetAgentId s).2 = s ∨
    ∃ run, Handed parent targetAgentId run s
      (handOff services parent content now targetAgentId s).2 := by
  unfold handOff
  simp only [tryCatch, tryCatchThe, MonadExceptOf.tryCatch]
  obtain ⟨e, h⟩ | ⟨run, s', hhanded, h⟩ :=
    createChild_cases services parent targetAgentId content now s
  · rw [h]
    dsimp only
    rw [get_bind]
    left
    cases s.existingChild parent targetAgentId with
    | some existing => rfl
    | none =>
      dsimp only
      split <;> rfl
  · rw [h]
    exact .inr ⟨run, hhanded⟩

theorem create_cases (principal : McpPrincipal) (input : HandoffInput) (now : Time)
    (s : Collaboration) :
    (∃ e, create services principal input now s = (.error e, s)) ∨
    (∃ parent run s', s.central.runs.get input.parentRunId = some parent ∧
      Handed parent input.targetAgentId run s s' ∧
      create services principal input now s = (.ok (some run), s')) := by
  unfold create
  rw [get_bind]
  cases hasked : s.requested principal input with
  | error e => exact .inl ⟨e, rfl⟩
  | ok asked =>
    obtain ⟨parent, instruction⟩ := asked
    obtain ⟨e, h⟩ | ⟨run, s', hhanded, h⟩ :=
      createChild_cases services parent input.targetAgentId instruction now s
    · exact .inl ⟨e, h⟩
    · exact .inr ⟨parent, run, s', requested_ok hasked, hhanded, h⟩

/-- The Runs that a trigger message is handed to, over a history. -/
def handoffsOf (history : Nat → Collaboration) (triggerMessageId : MessageId) : Set RunId :=
  { id | ∃ n run, (history n).central.runs.get id = some run ∧ run.IsHandoff ∧
    run.triggerMessageId = triggerMessageId }

/-- **What holds of handoffs**, whatever was requested, mentioned, retried and changed. -/
structure HandoffLaw (services : Services) : Prop where
  /-- Every handoff is in the chain of its parent, which its Agent is not in, with at most five
  Agents and no deeper than the limit that was in force. -/
  contained : ∀ s, (collaboration services).Reachable s → ∀ id run,
    s.central.runs.get id = some run → run.IsHandoff →
      ∃ parent rest limit, Contained s run parent rest limit
  /-- No chain of parents repeats an Agent or has more than five, Discussion turns apart. -/
  chains : ∀ s, (collaboration services).Reachable s → ∀ id agents,
    Chain (fun run => run.orchestrationKey = none) s.central.runs id agents →
      agents.Nodup ∧ agents.length ≤ maximumUniqueAgents
  /-- Every walk of parents ends. -/
  ends : ∀ s, (collaboration services).Reachable s → ∀ id run,
    s.central.runs.get id = some run → ∃ agents, Parents s.central.runs id agents ∧
      ancestry s.central.runs s.central.runs.rows.length run = .ok agents
  /-- A parent has one child for each Agent, however often its replies are processed. -/
  once : ∀ s, (collaboration services).Reachable s → ∀ id id' run run',
    s.central.runs.get id = some run → s.central.runs.get id' = some run' →
    run.IsHandoff → run'.IsHandoff → run.parentRunId = run'.parentRunId →
    run.targetAgentId = run'.targetAgentId → id = id'
  /-- A request that fails creates nothing; one that returns is within the limit of its Room. -/
  requested : ∀ principal input now s,
    (∃ e, create services principal input now s = (.error e, s)) ∨
    (∃ parent run s', s.central.runs.get input.parentRunId = some parent ∧
      Handed parent input.targetAgentId run s s' ∧
      create services principal input now s = (.ok (some run), s'))
  /-- So is a mention. -/
  mentioned : ∀ parent content now targetAgentId s,
    (handOff services parent content now targetAgentId s).2 = s ∨
    ∃ run, Handed parent targetAgentId run s
      (handOff services parent content now targetAgentId s).2
  /-- A reply that was applied stays as it was stored, whether its routing returns or throws. -/
  stored : ∀ s, (collaboration services).Reachable s → ∀ principal input now applied db,
    BridgeRunEventService.applyReply services principal input now s.central = (.ok applied, db) →
      Beside { s with
        lineage := { s.lineage with central := db } }
        (bridgeReply services principal input now s).2
  /-- A trigger has at most one handoff for each Agent that is ever known. -/
  finite : ∀ history, (collaboration services).init (history 0) →
    (∀ n, (collaboration services).Next (history n) (history (n + 1))) →
    ∀ agents : Finset AgentId,
      (∀ n agentId, ((history n).central.agents.get agentId).isSome = true → agentId ∈ agents) →
    ∀ triggerMessageId, (handoffsOf history triggerMessageId).Finite ∧
      (handoffsOf history triggerMessageId).ncard ≤ agents.card

section History

variable {history : Nat → Collaboration}

theorem history_reachable (h0 : (collaboration services).init (history 0))
    (hnext : ∀ n, (collaboration services).Next (history n) (history (n + 1))) (n : Nat) :
    (collaboration services).Reachable (history n) := by
  induction n with
  | zero => exact System.reachable_init h0
  | succ n ih =>
    obtain ⟨i, hstep⟩ := hnext n
    exact System.reachable_step ih hstep

variable {n : Nat} {m : Nat}

theorem history_grows (h0 : (collaboration services).init (history 0))
    (hnext : ∀ n, (collaboration services).Next (history n) (history (n + 1))) (h : m ≤ n) :
    Grows (history m) (history n) := by
  induction n, h using Nat.le_induction with
  | base => exact .refl _
  | succ n _ ih =>
    obtain ⟨i, hstep⟩ := hnext n
    exact ih.trans (follows_step (inv_reachable (history_reachable h0 hnext n)) hstep).grows

/-- A handoff is of an Agent that was known. -/
theorem target_known (h0 : (collaboration services).init (history 0))
    (hnext : ∀ n, (collaboration services).Next (history n) (history (n + 1))) {id : RunId}
    {run : RunRecord} (hget : (history n).central.runs.get id = some run)
    (hhandoff : run.IsHandoff) :
    ∃ m, ((history m).central.agents.get run.targetAgentId).isSome = true := by
  induction n generalizing run with
  | zero =>
    have hruns : (history 0).central.runs = .empty := h0.1
    rw [hruns] at hget
    cases hget
  | succ n ih =>
    obtain ⟨i, hstep⟩ := hnext n
    have hfollows := follows_step (inv_reachable (history_reachable h0 hnext n)) hstep
    obtain ⟨old, hold⟩ | hknown := hfollows.known id run hget hhandoff
    · -- a Run that was there: known when it was created
      obtain ⟨run₁, hget₁, hkept⟩ := hfollows.grows.runs id old hold
      obtain rfl := Option.mem_unique hget₁ hget
      rw [hkept.targetAgentId]
      exact ih hold ((isHandoff_kept hkept).mp hhandoff)
    · exact ⟨n + 1, hknown⟩

theorem handoff_eq (h0 : (collaboration services).init (history 0))
    (hnext : ∀ n, (collaboration services).Next (history n) (history (n + 1))) {id id' : RunId}
    {run run' : RunRecord} (hget : (history m).central.runs.get id = some run)
    (hhandoff : run.IsHandoff) (hget' : (history n).central.runs.get id' = some run')
    (hhandoff' : run'.IsHandoff) (htrigger : run.triggerMessageId = run'.triggerMessageId)
    (htarget : run.targetAgentId = run'.targetAgentId) : id = id' := by
  -- both Runs, as the later of the two states has them
  obtain ⟨a, hgetA, hkeptA⟩ :=
    (history_grows h0 hnext (le_max_left m n)).runs id run hget
  obtain ⟨b, hgetB, hkeptB⟩ :=
    (history_grows h0 hnext (le_max_right m n)).runs id' run' hget'
  refine (inv_reachable (history_reachable h0 hnext (max m n))).once id id' a b hgetA hgetB
    ((isHandoff_kept hkeptA).mpr hhandoff) ((isHandoff_kept hkeptB).mpr hhandoff') ?_ ?_
  · rw [hkeptA.triggerMessageId, hkeptB.triggerMessageId, htrigger]
  · rw [hkeptA.targetAgentId, hkeptB.targetAgentId, htarget]

theorem handoffs_finite (h0 : (collaboration services).init (history 0))
    (hnext : ∀ n, (collaboration services).Next (history n) (history (n + 1)))
    {agents : Finset AgentId} (hagents : ∀ n agentId,
      ((history n).central.agents.get agentId).isSome = true → agentId ∈ agents)
    (triggerMessageId : MessageId) : (handoffsOf history triggerMessageId).Finite ∧
      (handoffsOf history triggerMessageId).ncard ≤ agents.card := by
  have htarget : ∀ id ∈ handoffsOf history triggerMessageId, ∃ agentId n run,
      (history n).central.runs.get id = some run ∧ run.IsHandoff ∧
      run.triggerMessageId = triggerMessageId ∧ run.targetAgentId = agentId := by
    rintro id ⟨n, run, hget, hhandoff, htrigger⟩
    exact ⟨_, n, run, hget, hhandoff, htrigger, rfl⟩
  choose! target hfound using htarget
  -- the Runs go to Agents that were known
  have hmaps : Set.MapsTo target (handoffsOf history triggerMessageId) agents := by
    intro id hid
    obtain ⟨n, run, hget, hhandoff, -, htarget⟩ := hfound id hid
    obtain ⟨m, hknown⟩ := target_known h0 hnext hget hhandoff
    rw [← htarget]
    exact hagents m _ hknown
  -- and no two of one trigger to the same
  have hinj : Set.InjOn target (handoffsOf history triggerMessageId) := by
    intro id hid id' hid' hsame
    obtain ⟨n, run, hget, hhandoff, htrigger, htarget⟩ := hfound id hid
    obtain ⟨n', run', hget', hhandoff', htrigger', htarget'⟩ := hfound id' hid'
    exact handoff_eq h0 hnext hget hhandoff hget' hhandoff' (htrigger.trans htrigger'.symm)
      (by rw [htarget, htarget', hsame])
  refine ⟨Set.Finite.of_injOn hmaps hinj agents.finite_toSet, ?_⟩
  rw [← Set.ncard_coe_finset agents]
  exact Set.ncard_le_ncard_of_injOn target (fun id hid => hmaps hid) hinj agents.finite_toSet

end History

/-- **The handoff law.** -/
theorem handoff_law (services : Services) : HandoffLaw services where
  contained _ h := (inv_reachable h).contained
  chains _ h _ _ hchain := (inv_reachable h).chain_bounded hchain
  ends s h id run hget := by
    obtain ⟨agents, hchain, hle⟩ := (inv_reachable h).chained id run hget
    exact ⟨agents, hchain, ancestry_of_parents hchain hget hle⟩
  once s h id id' run run' hget hget' hhandoff hhandoff' hparent htarget := by
    have hinv := inv_reachable h
    obtain ⟨parent, rest, limit, hcontained⟩ := hinv.contained id run hget hhandoff
    obtain ⟨parent', rest', limit', hcontained'⟩ :=
      hinv.contained id' run' hget' hhandoff'
    refine hinv.once id id' run run' hget hget' hhandoff hhandoff' ?_ htarget
    -- the children of one Run have its trigger
    have hids : parent.runId = parent'.runId :=
      Option.some.inj (hcontained.parentRunId.symm.trans
        (hparent.trans hcontained'.parentRunId))
    have hsame : parent = parent' :=
      Option.some.inj (hcontained.get.symm.trans (hids ▸ hcontained'.get))
    rw [hcontained.triggerMessageId, hcontained'.triggerMessageId, hsame]
  requested := create_cases
  mentioned := handOff_cases services
  stored s h principal input now applied db happlied := by
    have hstored : replied services principal input now s =
        { s with
          lineage := { s.lineage with central := db } } := by
      unfold replied onLineage Lineage.onCentral
      dsimp only
      rw [show (BridgeRunEventService.applyReply services principal input now
        s.lineage.central) = _ from happlied]
    rw [← hstored]
    exact (bridgeReply_keeps (inv_reachable h) principal input now).2
  finite _ h0 hnext _ hagents := handoffs_finite h0 hnext hagents

/-! ## A Room that keeps growing -/

theorem insertRunIdentity_returns (hfresh : db.runs.get request.runId = none) :
    ∃ run, RunRepository.insertRunIdentity request db =
      (.ok (), { db with runs := db.runs.put request.runId run }) := by
  unfold RunRepository.insertRunIdentity
  rw [get_bind, hfresh]
  exact ⟨_, rfl⟩

theorem freezeContextManifest_returns (hnew : db.contextManifests.get runId = none) :
    RunRepository.freezeContextManifest plainServices runId db =
      (.ok (), { db with contextManifests := db.contextManifests.put runId "" }) := by
  unfold RunRepository.freezeContextManifest
  rw [get_bind]
  dsimp only [plainServices]
  rw [hnew]
  rfl

variable {lineage : Lineage} {task : RetryTask}

theorem countRun_tasks {lineage' : Lineage} {taskId : TaskId}
    (htask : lineage.tasks.get taskId = some task)
    (h : Lineage.countRun taskId lineage = (.ok u, lineage')) :
    lineage'.tasks.get taskId =
      some { task with budgetRunAttempts := task.budgetRunAttempts + 1 } := by
  obtain ⟨-, rfl⟩ := Prod.mk.inj h
  simp only [htask, Table.get_put_self]

/-- A Run that passes the checks is created. -/
theorem createRun_returns (hcheck : lineage.checkRunInsert request = .ok ())
    (hfresh : lineage.central.runs.get request.runId = none)
    (hnew : lineage.central.contextManifests.get request.runId = none)
    (htask : lineage.tasks.get request.taskId = some task) :
    ∃ lineage', Lineage.createRun plainServices request lineage = (.ok (), lineage') ∧
      lineage'.central.nextId = lineage.central.nextId ∧
      lineage'.central.contextManifests =
        lineage.central.contextManifests.put request.runId "" ∧
      lineage'.tasks.get request.taskId =
        some { task with budgetRunAttempts := task.budgetRunAttempts + 1 } := by
  obtain ⟨run, hinsert⟩ := insertRunIdentity_returns hfresh
  have hinserted := congrArg (fun r => (r.1, { lineage with central := r.2 })) hinsert
  dsimp only at hinserted
  generalize hdb : { lineage.central with
    runs := lineage.central.runs.put request.runId run } = db at hinserted
  generalize hmiddle : ({ lineage with central := db } : Lineage) = middle at hinserted
  -- counting the attempt changes the Task only
  rcases hcount : Lineage.countRun request.taskId middle with ⟨e | u, counted⟩
  · cases (Prod.mk.inj hcount).1
  · have hcentral : counted.central = db := by
      rw [(Lineage.countRun_ok hcount).1, ← hmiddle]
    have hmanifests : counted.central.contextManifests.get request.runId = none := by
      rw [hcentral, ← hdb]
      exact hnew
    have hfreeze := freezeContextManifest_returns hmanifests
    refine ⟨{ counted with
      central := { counted.central with
        contextManifests := counted.central.contextManifests.put request.runId "" } },
      immediate_ok ?_, ?_, ?_, ?_⟩
    · rw [get_bind, hcheck]
      have hstored : Lineage.onCentral (RunRepository.insertRunIdentity request) lineage =
        (.ok (), middle) := hinserted
      refine (bind_ok hstored).trans ((bind_ok hcount).trans ?_)
      exact congrArg (fun r => (r.1, { counted with central := r.2 })) hfreeze
    · dsimp only
      rw [hcentral, ← hdb]
    · dsimp only
      rw [hcentral, ← hdb]
    · have htask' : middle.tasks.get request.taskId = some task := by
        rw [← hmiddle]
        exact htask
      have hcounted := countRun_tasks htask' hcount
      exact hcounted

theorem onLineage_check_returns (h : x = .ok a) :
    onLineage (Lineage.check x) s = (.ok a, s) := by
  rw [h]
  rfl

def sampleAgent (agentId : AgentId) : AgentRecord where
  agentId
  teamId := 1
  ownerMemberId := 1
  deviceId := some 1
  name := "agent"
  integrationMode := .managed
  capabilities :=
    { supportsInterrupt := true, supportsRoomContextCoverage := false
      supportsArtifactMaterialization := false
      supportsDiscussionSupplementalEvidence := false }
  readOnly := true
  runtimeScopeId := none
  enabled := true
  presence := .ready
  createdAt := agentId

/-- One Agent in a Room that lets it hand off. -/
def sampleTeam : Collaboration where
  lineage := { Lineage.sampleLineage with
    central := { oneAgent with
      rooms := Table.empty.put 1
        { roomId := 1, nextMessageSequence := 1, allowAgentMentions := true, roomAgents := [1] } } }
  policies := Table.empty.put 1 ⟨1, true, 3⟩
  discussionRuns := []
  routed := []
  limits := .empty

/-- An Agent joins the Team and the Room. -/
def joined (agentId : AgentId) (s : Collaboration) : Collaboration :=
  { s with
    lineage := { s.lineage with
      central := { s.central with
        agents := s.central.agents.put agentId (sampleAgent agentId)
        rooms := s.central.rooms.put 1
          { roomId := 1, nextMessageSequence := 1, allowAgentMentions := true
            roomAgents := [1, agentId] } } } }

/-- The step of each time: a member's message, then an Agent joins and the Run of the message is
handed to it, and so on. -/
def growing : Nat → CollaborationStep
  | 0 => .start (plainRequest 1 1000)
  | n + 1 =>
    if n % 2 = 0 then .elsewhere .environment else .handoff ⟨1, 1⟩ ⟨1, n / 2 + 2, "look"⟩ 0

def grown : Nat → Collaboration
  | 0 => sampleTeam
  | 1 => (onLineage (Lineage.onCentral
      (RunRepository.createRuns plainServices [plainRequest 1 1000])) sampleTeam).2
  | n + 2 =>
    if n % 2 = 0 then joined (n / 2 + 2) (grown (n + 1))
    else (create plainServices ⟨1, 1⟩ ⟨1, n / 2 + 2, "look"⟩ 0 (grown (n + 1))).2

/-- The first Run of the growing Room. -/
def firstRun : RunRecord where
  runId := 1
  traceId := 1
  roomId := 1
  taskId := 1
  triggerMessageId := 1
  requesterMemberId := 1
  targetAgentId := 1
  instruction := "do it"
  state := .queued
  lastSequence := 0
  deadlineAt := 1000
  createdAt := 1
  updatedAt := 1
  terminalAt := none

/-- The state once the first Run was handed to `k` Agents. -/
structure Ready (k : Nat) (s : Collaboration) : Prop where
  run : s.central.runs.get 1 = some firstRun
  policy : s.policies.get 1 = some ⟨1, true, 3⟩
  task : ∃ task, s.lineage.tasks.get 1 = some task ∧ task.roomId = 1 ∧ task.isDefault = true ∧
    task.governed = false
  targets : ∀ id run, s.central.runs.get id = some run → run.targetAgentId < k + 2
  runIds : ∀ id run, s.central.runs.get id = some run → id < s.central.nextId
  manifestIds : ∀ id manifest, s.central.contextManifests.get id = some manifest →
    id < s.central.nextId

variable {k : Nat}

theorem Ready.availableTarget (h : Ready k s) :
    (joined (k + 2) s).availableTarget firstRun (k + 2) = .ok ⟨1, true, 3⟩ := by
  obtain ⟨task, htask, hroom, hdefault, hgoverned⟩ := h.task
  have hpolicy : (joined (k + 2) s).policies.get firstRun.roomId = some ⟨1, true, 3⟩ := h.policy
  have htarget : (joined (k + 2) s).central.agents.get (k + 2) = some (sampleAgent (k + 2)) :=
    Table.get_put_self _ _ _
  have htask' : (joined (k + 2) s).lineage.tasks.get firstRun.taskId = some task := htask
  have hmember : (joined (k + 2) s).isRoomAgent firstRun.roomId (k + 2) = true := by
    unfold isRoomAgent
    rw [show (joined (k + 2) s).central.rooms.get firstRun.roomId = _ from
      Table.get_put_self _ _ _]
    simp
  unfold Collaboration.availableTarget
  rw [hpolicy, htarget, htask']
  exact Except.require_bind ⟨rfl, rfl, hmember, .inl hdefault⟩

theorem Ready.boundedLineage (h : Ready k s) :
    (joined (k + 2) s).boundedLineage 3 firstRun (k + 2) = .ok () := by
  have hwalk : ancestry (joined (k + 2) s).central.runs
      (joined (k + 2) s).central.runs.rows.length firstRun = .ok [1] := by
    have hchain : Parents s.central.runs 1 [1] := .root h.run rfl
    refine ancestry_of_parents hchain h.run ?_
    exact List.length_pos_of_mem (Table.mem_rows.mpr ⟨1, h.run⟩)
  unfold Collaboration.boundedLineage
  refine (Except.bind_of_ok hwalk).trans ?_
  have hnew : k + 2 ∉ [1] := by simp
  have hfew : ([k + 2, 1] : List AgentId).dedup.length ≤ maximumUniqueAgents :=
    (List.dedup_sublist _).length_le.trans (Nat.le_add_left 2 3)
  refine (Except.require_bind (show ([1] : List AgentId).length - 1 < 3 by decide)).trans ?_
  refine (Except.require_bind hnew).trans ?_
  exact Except.require_eq_ok.mpr hfew

theorem Ready.requested (h : Ready k s) :
    (joined (k + 2) s).requested ⟨1, 1⟩ ⟨1, k + 2, "look"⟩ = .ok (firstRun, "look") := by
  have hrun : (joined (k + 2) s).central.runs.get 1 = some firstRun := h.run
  have hpolicy : (joined (k + 2) s).policies.get firstRun.roomId = some ⟨1, true, 3⟩ := h.policy
  have htarget : (joined (k + 2) s).central.agents.get (k + 2) = some (sampleAgent (k + 2)) :=
    Table.get_put_self _ _ _
  have hroom : (joined (k + 2) s).central.rooms.get firstRun.roomId = some
    { roomId := 1, nextMessageSequence := 1, allowAgentMentions := true
      roomAgents := [1, k + 2] } := Table.get_put_self _ _ _
  have hmember : (joined (k + 2) s).isRoomAgent firstRun.roomId (k + 2) = true := by
    unfold isRoomAgent
    rw [hroom]
    simp
  have hlook : trim "look" = "look" := by decide
  unfold Collaboration.requested
  dsimp only
  rw [hlook]
  refine (Except.require_bind (by decide)).trans ?_
  refine (Except.bind_of_ok (Except.demand_eq_ok.mpr hrun)).trans ?_
  refine (Except.bind_of_ok (Except.demand_eq_ok.mpr htarget)).trans ?_
  refine (Except.bind_of_ok (Except.demand_eq_ok.mpr hroom)).trans ?_
  refine (Except.bind_of_ok (Except.demand_eq_ok.mpr hpolicy)).trans ?_
  refine (Except.require_bind ⟨rfl, rfl, rfl, rfl, hmember⟩).trans ?_
  exact Except.require_bind rfl

/-- The lineage once a child of the first Run has its identifier. -/
def numbered (k : Nat) (s : Collaboration) : Lineage :=
  { (joined (k + 2) s).lineage with
    central := { (joined (k + 2) s).central with nextId := s.central.nextId + 1 } }

theorem Ready.checkRunInsert (h : Ready k s) :
    (numbered k s).checkRunInsert
      (handoffRequest firstRun (k + 2) "look" s.central.nextId 0) = .ok () := by
  obtain ⟨task, htask, hroom, hdefault, hgoverned⟩ := h.task
  have htask' : (numbered k s).tasks.get firstRun.taskId = some task := htask
  have hany : ∀ p : RetryTask → Bool, ((numbered k s).tasks.get (handoffRequest firstRun (k + 2)
      "look" s.central.nextId 0).taskId).any p = p task := fun p => by
    rw [show (numbered k s).tasks.get (handoffRequest firstRun (k + 2) "look"
      s.central.nextId 0).taskId = some task from htask']
    rfl
  unfold Lineage.checkRunInsert
  refine (Except.require_bind (show 1 ≤ "look".length ∧ "look".length ≤ 20000 by decide)).trans ?_
  refine (Except.require_bind ((hany _).trans (decide_eq_true hroom))).trans ?_
  refine (Except.require_bind ((hany _).trans hgoverned)).trans ?_
  refine (Except.require_bind fun parentRunId hretry => by cases hretry).trans ?_
  refine Except.require_eq_ok.mpr ?_
  rintro other hother ⟨-, htarget⟩
  obtain ⟨id, hget⟩ := Table.mem_rows.mp hother
  exact absurd htarget (h.targets id other hget).ne

/-- **Each new Agent is handed the first Run.** -/
theorem Ready.hand (h : Ready k s) : ∃ run s',
    Handed firstRun (k + 2) run (joined (k + 2) s) s' ∧ Ready (k + 1) s' ∧
    create plainServices ⟨1, 1⟩ ⟨1, k + 2, "look"⟩ 0 (joined (k + 2) s) = (.ok (some run), s') := by
  obtain ⟨task, htask, hroom, hdefault, hgoverned⟩ := h.task
  -- the next id is above every id in use
  have hfresh : (numbered k s).central.runs.get s.central.nextId = none := by
    by_contra hsome
    obtain ⟨run, hget⟩ := Option.ne_none_iff_exists'.mp hsome
    exact absurd (h.runIds _ run hget) (Nat.lt_irrefl _)
  have hnew : (numbered k s).central.contextManifests.get s.central.nextId = none := by
    by_contra hsome
    obtain ⟨manifest, hget⟩ := Option.ne_none_iff_exists'.mp hsome
    exact absurd (h.manifestIds _ manifest hget) (Nat.lt_irrefl _)
  obtain ⟨lineage, hcreate, hnextId, hmanifests, htask'⟩ :=
    createRun_returns h.checkRunInsert hfresh hnew htask
  obtain ⟨s', hs'⟩ : ∃ s', s' = { joined (k + 2) s with
      lineage
      limits := (joined (k + 2) s).limits.put s.central.nextId 3 } := ⟨_, rfl⟩
  have hcreated : onLineage (Lineage.createRun plainServices
      (handoffRequest firstRun (k + 2) "look" s.central.nextId 0))
      { joined (k + 2) s with lineage := numbered k s } =
        (.ok (), { joined (k + 2) s with lineage }) :=
    congrArg (fun r => (r.1, { joined (k + 2) s with lineage := r.2 })) hcreate
  have hchild : createChild plainServices firstRun (k + 2) "look" 0 (joined (k + 2) s) =
      (.ok (lineage.central.runs.get s.central.nextId), s') := by
    refine immediate_ok ?_
    rw [get_bind]
    refine (bind_ok (onLineage_check_returns h.availableTarget)).trans ?_
    refine (bind_ok (onLineage_check_returns h.boundedLineage)).trans ?_
    refine (bind_ok (show onLineage (Lineage.onCentral createOpaqueId) (joined (k + 2) s) =
      (.ok s.central.nextId, { joined (k + 2) s with lineage := numbered k s }) from rfl)).trans ?_
    refine (bind_ok hcreated).trans ?_
    rw [hs']
    rfl
  -- what was created is what `createChild_cases` says of it
  obtain ⟨e, herror⟩ | ⟨run, s'', hhanded, hok⟩ :=
    createChild_cases plainServices firstRun (k + 2) "look" 0 (joined (k + 2) s)
  · rw [herror] at hchild
    cases (Prod.mk.inj hchild).1
  · obtain rfl : s'' = s' := congrArg Prod.snd (hok.symm.trans hchild)
    refine ⟨run, s'', hhanded, ?_, ?_⟩
    · have hnext : s''.central.nextId = s.central.nextId + 1 := by
        rw [hs']
        exact hnextId
      -- the rows are those from before and the child
      have hrows : ∀ id other, s''.central.runs.get id = some other →
          (id = s.central.nextId ∧ other.targetAgentId = k + 2) ∨
            s.central.runs.get id = some other := by
        have hget : s''.central.runs.get s.central.nextId = some run := by
          rw [hs']
          exact Except.ok.inj (congrArg Prod.fst (hchild.symm.trans hok))
        have hruns : s''.central.runs = s.central.runs.put run.runId run := hhanded.runs
        have hid : s.central.nextId = run.runId := by
          by_contra hne
          rw [hruns, Table.get_put_ne _ _ hne] at hget
          exact absurd (h.runIds _ run hget) (Nat.lt_irrefl _)
        intro id other hother
        rw [hruns, Table.get_put] at hother
        split at hother
        · next heq =>
            rw [← Option.some.inj hother]
            exact .inl ⟨heq.trans hid.symm, hhanded.target⟩
        · exact .inr hother
      constructor
      · have hget : (joined (k + 2) s).central.runs.get firstRun.runId = some firstRun := h.run
        exact (Routes.handed hget hhanded).get h.run
      · rw [hs']
        exact h.policy
      · rw [hs']
        exact ⟨_, htask', hroom, hdefault, hgoverned⟩
      · intro id other hother
        obtain ⟨-, htarget⟩ | hold := hrows id other hother
        · rw [htarget]
          exact Nat.lt_succ_self _
        · exact Nat.lt_succ_of_lt (h.targets id other hold)
      · intro id other hother
        rw [hnext]
        obtain ⟨rfl, -⟩ | hold := hrows id other hother
        · exact Nat.lt_succ_self _
        · exact Nat.lt_succ_of_lt (h.runIds id other hold)
      · intro id manifest hmanifest
        have hput : s''.central.contextManifests =
            s.central.contextManifests.put s.central.nextId "" := by
          rw [hs']
          exact hmanifests
        rw [hput, Table.get_put] at hmanifest
        rw [hnext]
        split at hmanifest
        · next heq =>
            rw [heq]
            exact Nat.lt_succ_self _
        · exact Nat.lt_succ_of_lt (h.manifestIds id manifest hmanifest)
    · unfold create
      rw [get_bind]
      exact (bind_ok (onLineage_check_returns h.requested)).trans hok

theorem grown_joined (k : Nat) : grown (2 * k + 2) = joined (k + 2) (grown (2 * k + 1)) := by
  rw [grown, if_pos (Nat.mul_mod_right 2 k), Nat.mul_div_cancel_left k (by decide)]

theorem grown_handed (k : Nat) : grown (2 * k + 3) =
    (create plainServices ⟨1, 1⟩ ⟨1, k + 2, "look"⟩ 0 (grown (2 * k + 2))).2 := by
  have hodd : (2 * k + 1) % 2 ≠ 0 := by omega
  have hhalf : (2 * k + 1) / 2 = k := by omega
  rw [grown, if_neg hodd, hhalf]

theorem grown_ready (k : Nat) : Ready k (grown (2 * k + 1)) := by
  induction k with
  | zero =>
    have hruns : (grown 1).central.runs = Table.empty.put 1 firstRun := rfl
    have hmanifests : (grown 1).central.contextManifests = Table.empty.put 1 "" := rfl
    refine ⟨rfl, rfl, ⟨_, rfl, rfl, rfl, rfl⟩, ?_, ?_, ?_⟩
    · intro id run hget
      rw [Nat.mul_zero, hruns, Table.get_put] at hget
      split at hget
      · rw [← Option.some.inj hget]
        decide
      · cases hget
    · intro id run hget
      rw [Nat.mul_zero, hruns, Table.get_put] at hget
      split at hget
      · next heq =>
          rw [heq]
          decide
      · cases hget
    · intro id manifest hget
      rw [Nat.mul_zero, hmanifests, Table.get_put] at hget
      split at hget
      · next heq =>
          rw [heq]
          decide
      · cases hget
  | succ k ih =>
    obtain ⟨run, s', -, hready, hcreate⟩ := ih.hand
    have hstate : grown (2 * (k + 1) + 1) = s' := by
      rw [show 2 * (k + 1) + 1 = 2 * k + 3 from rfl, grown_handed, grown_joined, hcreate]
    rw [hstate]
    exact hready

/-- Each step is the one of its time. -/
theorem grown_step (n : Nat) :
    (collaboration plainServices).step (growing n) (grown n) (grown (n + 1)) := by
  obtain rfl | ⟨k, rfl | rfl⟩ : n = 0 ∨ ∃ k, n = 2 * k + 1 ∨ n = 2 * k + 2 := by
    rcases n with _ | n
    · exact .inl rfl
    · exact .inr ⟨n / 2, by omega⟩
  · refine ⟨?_, rfl⟩
    intro parentRunId hparent
    cases hparent
  · rw [show growing (2 * k + 1) = .elsewhere .environment by
      rw [growing, if_pos (Nat.mul_mod_right 2 k)]]
    rw [grown_joined]
    exact ⟨⟨rfl, rfl, rfl, rfl, rfl⟩, rfl, fun _ h => h⟩
  · have hodd : (2 * k + 1) % 2 ≠ 0 := by omega
    have hhalf : (2 * k + 1) / 2 = k := by omega
    rw [show growing (2 * k + 2) = .handoff ⟨1, 1⟩ ⟨1, k + 2, "look"⟩ 0 by
      rw [growing, if_neg hodd, hhalf]]
    exact grown_handed k

/-- **A Room whose Agents never end has no end of handoffs**: after the first message there are
only handoffs and new members, and every Agent that joins is handed the first Run. -/
theorem handoffs_unbounded :
    ∃ (steps : Nat → CollaborationStep) (history : Nat → Collaboration),
    (collaboration plainServices).init (history 0) ∧
    (∀ n, (collaboration plainServices).step (steps n) (history n) (history (n + 1))) ∧
    (∀ n, steps (n + 1) = .elsewhere .environment ∨
      ∃ principal input now, steps (n + 1) = .handoff principal input now) ∧
    ¬ (handoffsOf history 1).Finite := by
  have h0 : (collaboration plainServices).init (grown 0) := oneAgent_init plainServices
  have hnext : ∀ n, (collaboration plainServices).Next (grown n) (grown (n + 1)) :=
    fun n => ⟨growing n, grown_step n⟩
  refine ⟨growing, grown, h0, grown_step, fun n => ?_, ?_⟩
  · rw [growing]
    split
    · exact .inl rfl
    · exact .inr ⟨_, _, _, rfl⟩
  · -- each Agent that joins is handed the work once
    have hchild : ∀ k, ∃ id run, (grown (2 * k + 3)).central.runs.get id = some run ∧
        run.IsHandoff ∧ run.triggerMessageId = 1 ∧ run.targetAgentId = k + 2 := by
      intro k
      obtain ⟨run, s', hhanded, -, hcreate⟩ := (grown_ready k).hand
      refine ⟨run.runId, run, ?_, ⟨?_, hhanded.orchestrationKey⟩, hhanded.triggerMessageId,
        hhanded.target⟩
      · rw [grown_handed, grown_joined, hcreate, hhanded.runs, Table.get_put_self]
      · rw [hhanded.parentRunId]
        exact Option.some_ne_none _
    choose child run hget hhandoff htrigger htarget using hchild
    refine Set.infinite_of_injective_forall_mem (f := child) ?_ fun k =>
      ⟨2 * k + 3, run k, hget k, hhandoff k, htrigger k⟩
    -- one Run has one Agent, whenever it is seen
    intro j k hsame
    obtain ⟨a, hgetA, hkeptA⟩ := (history_grows h0 hnext
      (le_max_left (2 * j + 3) (2 * k + 3))).runs _ _ (hget j)
    obtain ⟨b, hgetB, hkeptB⟩ := (history_grows h0 hnext
      (le_max_right (2 * j + 3) (2 * k + 3))).runs _ _ (hget k)
    rw [hsame, hgetB] at hgetA
    obtain rfl := Option.some.inj hgetA
    have htargets : k + 2 = j + 2 := by
      rw [← htarget k, ← htarget j, ← hkeptB.targetAgentId, hkeptA.targetAgentId]
    exact (Nat.add_right_cancel htargets).symm

end Collaboration

end AgentRoom
