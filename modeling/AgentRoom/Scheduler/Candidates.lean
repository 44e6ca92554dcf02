import AgentRoom.Lib.Checks
import AgentRoom.Lib.Each
import AgentRoom.Plan.NormalForm

/-!
# The candidates of a sweep

`listCandidates` of the node state repository: the nodes of current approved plans that have no
Run, joined from the tables, with their place in the topological order, sorted. The rows of
`execution_node_states` come in any order; the order of the candidates does not depend on it.
-/

namespace AgentRoom.Scheduler

open Plan (textLe textLe_antisymm textLe_trans)

inductive Mode where
  | automatic | manual | supervised
  deriving DecidableEq

/-- `ExecutionSchedulerCandidate`. -/
structure Candidate where
  planId : String
  planRevision : Nat
  nodeKey : String
  agentId : String
  planApprovedAt : String
  schedulerMode : Mode
  schedulerModeRevision : Nat
  topologicalOrdinal : Nat

/-! ## The tables -/

/-- A row of `execution_node_states`. -/
structure NodeState where
  planId : String
  planRevision : Nat
  nodeKey : String
  runId : Option String

def NodeState.key (row : NodeState) : String × Nat × String :=
  (row.planId, row.planRevision, row.nodeKey)

structure PlanRow where
  currentRevision : Nat
  /-- `state IN ('approved', 'running')`. -/
  schedulable : Bool

structure ApprovalRow where
  approved : Bool
  reviewedAt : String

structure ControlRow where
  mode : Mode
  modeRevision : Nat

/-- What the query reads, each joined table by its key. `topology` is the `topologicalOrder` of
the proposal's definition, or the error of its validation. -/
structure Tables (Fault : Type) where
  states : List NodeState
  keyed : (states.map NodeState.key).Nodup
  plan : String → Option PlanRow
  /-- `agent_id` of `execution_plan_nodes`. -/
  agent : String → Nat → String → Option String
  approval : String → Nat → Option ApprovalRow
  topology : String → Nat → Option (Except Fault (List String))
  control : String → Option ControlRow
  adopted : String → Nat → String → Bool

section Query

variable {Fault : Type}

/-- A row of the join, before its ordinal is known. -/
structure Row (Fault : Type) where
  state : NodeState
  agentId : String
  reviewedAt : String
  topology : Except Fault (List String)
  control : ControlRow

def Tables.join (t : Tables Fault) (mode : Option Mode) (planId : Option String)
    (state : NodeState) : Option (Row Fault) := do
  let plan ← t.plan state.planId
  let agentId ← t.agent state.planId state.planRevision state.nodeKey
  let approval ← t.approval state.planId state.planRevision
  let topology ← t.topology state.planId state.planRevision
  let control ← t.control state.planId
  if plan.currentRevision = state.planRevision ∧ approval.approved = true ∧
      plan.schedulable = true ∧ state.runId = none ∧
      t.adopted state.planId state.planRevision state.nodeKey = false ∧
      (mode = none ∨ mode = some control.mode) ∧
      (planId = none ∨ planId = some state.planId) then
    some { state, agentId, reviewedAt := approval.reviewedAt, topology, control }
  else none

/-- The candidate of a row. A node outside the topology is an error. -/
def Row.candidate (outside : Fault) (row : Row Fault) : Except Fault Candidate :=
  match row.topology with
  | .error fault => .error fault
  | .ok topology =>
    if topology.idxOf row.state.nodeKey < topology.length then
      .ok { planId := row.state.planId
            planRevision := row.state.planRevision
            nodeKey := row.state.nodeKey
            agentId := row.agentId
            planApprovedAt := row.reviewedAt
            schedulerMode := row.control.mode
            schedulerModeRevision := row.control.modeRevision
            topologicalOrdinal := topology.idxOf row.state.nodeKey }
    else .error outside

/-! ## The order -/

section Order

variable {α κ : Type} [DecidableEq κ]

/-- `compare(key) || rest`. -/
def byKey (key : α → κ) (le : κ → κ → Prop) (rest : α → α → Prop) (a b : α) : Prop :=
  if key a = key b then rest a b else le (key a) (key b)

instance byKey_decidable (key : α → κ) (le : κ → κ → Prop) (rest : α → α → Prop)
    [DecidableRel le] [DecidableRel rest] : DecidableRel (byKey key le rest) := fun a b =>
  inferInstanceAs (Decidable (if key a = key b then rest a b else le (key a) (key b)))

variable {key : α → κ} {le : κ → κ → Prop} {rest : α → α → Prop}

theorem byKey_antisymm (hle : ∀ x y, le x y → le y x → x = y) {a b : α}
    (h : byKey key le rest a b) (h' : byKey key le rest b a) :
    key a = key b ∧ rest a b ∧ rest b a := by
  unfold byKey at h h'
  by_cases heq : key a = key b
  · rw [if_pos heq] at h
    rw [if_pos heq.symm] at h'
    exact ⟨heq, h, h'⟩
  · rw [if_neg heq] at h
    rw [if_neg (Ne.symm heq)] at h'
    exact absurd (hle _ _ h h') heq

instance byKey_total [Std.Total le] [Std.Total rest] : Std.Total (byKey key le rest) where
  total a b := by
    unfold byKey
    by_cases heq : key a = key b
    · rw [if_pos heq, if_pos heq.symm]
      exact Std.Total.total a b
    · rw [if_neg heq, if_neg (Ne.symm heq)]
      exact Std.Total.total (key a) (key b)

instance byKey_trans [IsTrans κ le] [Std.Antisymm le] [IsTrans α rest] :
    IsTrans α (byKey key le rest) where
  trans a b c h h' := by
    unfold byKey at *
    by_cases hab : key a = key b <;> by_cases hbc : key b = key c
    · rw [if_pos hab] at h
      rw [if_pos hbc] at h'
      rw [if_pos (hab.trans hbc)]
      exact IsTrans.trans a b c h h'
    · rw [if_neg hbc] at h'
      rwa [hab, if_neg hbc]
    · rw [if_neg hab] at h
      rwa [← hbc, if_neg hab]
    · rw [if_neg hab] at h
      rw [if_neg hbc] at h'
      have hac : key a ≠ key c := by
        intro heq
        rw [← heq] at h'
        exact hab (Std.Antisymm.antisymm _ _ h h')
      rw [if_neg hac]
      exact IsTrans.trans _ _ _ h h'

end Order

/-- **`compareExecutionSchedulerCandidates`**, at most zero. -/
def candidateLe : Candidate → Candidate → Prop :=
  byKey (·.planApprovedAt) textLe <| byKey (·.planId) textLe <|
    byKey (·.topologicalOrdinal) (· ≤ ·) fun a b => textLe a.nodeKey b.nodeKey

instance : DecidableRel candidateLe := fun a b =>
  inferInstanceAs (Decidable (byKey (·.planApprovedAt) textLe (byKey (·.planId) textLe
    (byKey (·.topologicalOrdinal) (· ≤ ·) fun a b => textLe a.nodeKey b.nodeKey)) a b))

instance : Std.Total candidateLe :=
  inferInstanceAs (Std.Total (byKey (·.planApprovedAt) textLe (byKey (·.planId) textLe
    (byKey (·.topologicalOrdinal) (· ≤ ·) fun a b : Candidate => textLe a.nodeKey b.nodeKey))))

instance : IsTrans Candidate candidateLe :=
  inferInstanceAs (IsTrans Candidate (byKey (·.planApprovedAt) textLe (byKey (·.planId) textLe
    (byKey (·.topologicalOrdinal) (· ≤ ·) fun a b : Candidate => textLe a.nodeKey b.nodeKey))))

theorem candidateLe_antisymm {a b : Candidate} (h : candidateLe a b) (h' : candidateLe b a) :
    a.planId = b.planId ∧ a.nodeKey = b.nodeKey := by
  obtain ⟨-, h, h'⟩ := byKey_antisymm (fun _ _ => textLe_antisymm) h h'
  obtain ⟨hplan, h, h'⟩ := byKey_antisymm (fun _ _ => textLe_antisymm) h h'
  obtain ⟨-, h, h'⟩ := byKey_antisymm (fun _ _ => Nat.le_antisymm) h h'
  exact ⟨hplan, textLe_antisymm h h'⟩

/-- **`listCandidates`.** -/
def listCandidates (outside : Fault) (t : Tables Fault) (mode : Option Mode)
    (planId : Option String) : Except Fault (List Candidate) := do
  let candidates ← (t.states.filterMap (t.join mode planId)).mapM (Row.candidate outside)
  .ok (candidates.insertionSort candidateLe)

/-! ## What is listed -/

variable {outside : Fault} {t t' : Tables Fault} {mode : Option Mode} {planId : Option String}
  {candidates : List Candidate}

/-- The candidate of a state row, if it is one. -/
def Tables.candidate (t : Tables Fault) (outside : Fault) (mode : Option Mode)
    (planId : Option String) (state : NodeState) : Option Candidate :=
  (t.join mode planId state).bind fun row => (row.candidate outside).toOption

/-- What a candidate says of its row. -/
structure Describes (t : Tables Fault) (state : NodeState) (c : Candidate) : Prop where
  state : state = ⟨c.planId, c.planRevision, c.nodeKey, none⟩
  revision : ∃ plan, t.plan c.planId = some plan ∧ plan.currentRevision = c.planRevision
  approvedAt : ∃ approval, t.approval c.planId c.planRevision = some approval ∧
    approval.reviewedAt = c.planApprovedAt

variable {c : Candidate}

theorem Tables.candidate_describes {state : NodeState}
    (h : t.candidate outside mode planId state = some c) : Describes t state c := by
  obtain ⟨row, hrow, hcandidate⟩ := Option.bind_eq_some_iff.mp h
  simp only [Tables.join, Option.bind_eq_bind, Option.bind_eq_some_iff] at hrow
  obtain ⟨plan, hplan, agentId, -, approval, happroval, topology, -, control, -, hrow⟩ := hrow
  obtain ⟨⟨hrevision, -, -, hrun, -⟩, hrow⟩ := Option.ite_none_right_eq_some.mp hrow
  obtain rfl := Option.some.inj hrow
  obtain ⟨planId, planRevision, nodeKey, runId⟩ := state
  obtain rfl : runId = none := hrun
  cases topology with
  | error fault => cases hcandidate
  | ok order =>
    simp only [Row.candidate] at hcandidate
    split at hcandidate
    · obtain rfl := Option.some.inj hcandidate
      exact ⟨rfl, ⟨plan, hplan, hrevision⟩, ⟨approval, happroval, rfl⟩⟩
    · cases hcandidate

theorem mapM_toOption {α β ε : Type} {f : α → Except ε β} {l : List α} {r : List β}
    (h : l.mapM f = .ok r) : r = l.filterMap fun a => (f a).toOption := by
  have hall := Except.mapM_iff.mp h
  clear h
  induction hall with
  | nil => rfl
  | cons hfirst _ ih =>
    rw [List.filterMap_cons, hfirst]
    exact congrArg _ ih

theorem listCandidates_perm (h : listCandidates outside t mode planId = .ok candidates) :
    candidates.Perm (t.states.filterMap (t.candidate outside mode planId)) := by
  obtain ⟨listed, hlisted, hsorted⟩ := Except.of_bind h
  obtain rfl := Except.ok.inj hsorted
  rw [mapM_toOption hlisted, List.filterMap_filterMap]
  exact List.perm_insertionSort _ _

theorem describes_of_mem (h : listCandidates outside t mode planId = .ok candidates)
    (hc : c ∈ candidates) : ∃ state ∈ t.states, Describes t state c := by
  obtain ⟨state, hstate, hcandidate⟩ :=
    List.mem_filterMap.mp ((listCandidates_perm h).mem_iff.mp hc)
  exact ⟨state, hstate, Tables.candidate_describes hcandidate⟩

theorem nodup_candidates (h : listCandidates outside t mode planId = .ok candidates) :
    candidates.Nodup := by
  refine (listCandidates_perm h).nodup_iff.mpr (List.Nodup.filterMap ?_ (.of_map _ t.keyed))
  intro a b c ha hb
  exact (Tables.candidate_describes ha).state.trans (Tables.candidate_describes hb).state.symm

theorem approvedAt_eq (h : listCandidates outside t mode planId = .ok candidates) {c' : Candidate}
    (hc : c ∈ candidates) (hc' : c' ∈ candidates) (hplan : c.planId = c'.planId) :
    c.planApprovedAt = c'.planApprovedAt := by
  obtain ⟨_, -, -, ⟨plan, hp, hrevision⟩, ⟨approval, ha, hat⟩⟩ := describes_of_mem h hc
  obtain ⟨_, -, -, ⟨plan', hp', hrevision'⟩, ⟨approval', ha', hat'⟩⟩ := describes_of_mem h hc'
  rw [hplan, hp'] at hp
  obtain rfl := Option.some.inj hp
  rw [hplan, ← hrevision, hrevision', ha'] at ha
  obtain rfl := Option.some.inj ha
  exact hat.symm.trans hat'

theorem eq_of_node (h : listCandidates outside t mode planId = .ok candidates) {c' : Candidate}
    (hc : c ∈ candidates) (hc' : c' ∈ candidates) (hplan : c.planId = c'.planId)
    (hnode : c.nodeKey = c'.nodeKey) : c = c' := by
  have hperm := listCandidates_perm h
  obtain ⟨state, -, hcandidate⟩ := List.mem_filterMap.mp (hperm.mem_iff.mp hc)
  obtain ⟨state', -, hcandidate'⟩ := List.mem_filterMap.mp (hperm.mem_iff.mp hc')
  obtain ⟨hstate, ⟨plan, hp, hrevision⟩, -⟩ := Tables.candidate_describes hcandidate
  obtain ⟨hstate', ⟨plan', hp', hrevision'⟩, -⟩ := Tables.candidate_describes hcandidate'
  rw [hplan, hp'] at hp
  obtain rfl := Option.some.inj hp
  have hsame : state = state' := by
    rw [hstate, hstate', hplan, hnode, ← hrevision, hrevision']
  rw [hsame, hcandidate'] at hcandidate
  exact (Option.some.inj hcandidate).symm

/-- The same rows in another order. -/
structure SameRows (t t' : Tables Fault) : Prop where
  states : t.states.Perm t'.states
  rest : t' = { t with states := t'.states, keyed := t'.keyed }

theorem SameRows.symm (h : SameRows t t') : SameRows t' t where
  states := h.states.symm
  rest := by rw [h.rest]

/-- **The order of the rows does not matter** to what is listed. -/
theorem listCandidates_sameRows (hsame : SameRows t t')
    (h : listCandidates outside t mode planId = .ok candidates) :
    listCandidates outside t' mode planId = .ok candidates := by
  obtain ⟨listed, hlisted, hsorted⟩ := Except.of_bind h
  have hrows : t'.join = t.join := by
    rw [hsame.rest]
    rfl
  have hperm : (t.states.filterMap (t.join mode planId)).Perm
      (t'.states.filterMap (t'.join mode planId)) := hrows ▸ hsame.states.filterMap _
  obtain ⟨listed', hlisted'⟩ := Except.exists_mapM
    (l := t'.states.filterMap (t'.join mode planId)) (f := Row.candidate outside)
    fun row hrow =>
      (Except.exists_result_of_mapM hlisted (hperm.mem_iff.mpr hrow)).imp fun _ h => h.2
  have hlisted_perm : listed.Perm listed' := by
    rw [mapM_toOption hlisted, mapM_toOption hlisted']
    exact hperm.filterMap _
  have hlisted_sorted : listCandidates outside t' mode planId =
      .ok (listed'.insertionSort candidateLe) := by
    rw [listCandidates, hlisted']
    rfl
  obtain rfl := Except.ok.inj hsorted
  rw [hlisted_sorted]
  refine congrArg _ (List.Perm.eq_of_pairwise ?_ (List.pairwise_insertionSort _ _)
    (List.pairwise_insertionSort _ _) ?_)
  · intro a b ha hb hab hba
    have ha' : a ∈ listed.insertionSort candidateLe := by
      rw [List.mem_insertionSort] at ha ⊢
      exact hlisted_perm.mem_iff.mpr ha
    obtain ⟨hplan, hnode⟩ := candidateLe_antisymm hab hba
    exact eq_of_node h ha' hb hplan hnode
  · exact (List.perm_insertionSort _ _).trans
      (hlisted_perm.symm.trans (List.perm_insertionSort _ _).symm)

end Query

end AgentRoom.Scheduler
