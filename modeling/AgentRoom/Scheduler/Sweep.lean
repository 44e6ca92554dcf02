import Mathlib.Data.List.Induction
import Mathlib.Data.List.Sigma
import AgentRoom.Scheduler.Candidates

/-!
# The sweep of the scheduler

`ExecutionScheduler.sweep`: a queue for each plan, rounds in which each queue admits at most one
node, two counters that stop it. The repositories and services are a host with any answers; what
they throw is an execution error of an admission, or a fault that ends the sweep. What `readiness`
and `reconcileOne` throw is always a fault: nothing they read of a listed candidate raises an
`ExecutionError`.

The log is the history of the sweep, with the number of the round in which each entry was made.

A queue holds the candidates of one key in their order, and each candidate is in the queue of its
key. The order of a round visits each queue that is not empty once.
-/

namespace AgentRoom.Scheduler

inductive Readiness where
  | ready
  | blocked (code : String)

/-- `GovernedMessageAdmissionResult`, with the Run by its id. -/
inductive Admission where
  | existing (runId : String)
  | created (runId : String)

inductive Failure (Fault : Type) where
  | execution (code : String)
  | other (fault : Fault)

/-- `ScheduledAdmissionAuthority`. -/
structure Authority where
  expectedFairnessCursorRevision : Nat
  mode : Mode
  modeRevision : Nat
  operationId : Option String

/-- `ExecutionSchedulerFairnessCursor`. -/
structure Cursor where
  cursorRevision : Nat
  lastPlanId : String
  lastPlanRevision : Nat

/-- What the sweep calls. A call that throws leaves the database as it was. -/
structure Host (σ Fault : Type) where
  ensureCurrent : σ → Except Fault σ
  /-- The error for a candidate outside its topology. -/
  outside : Fault
  reconcile : σ → Except Fault σ
  cursor : σ → String → Option Cursor
  readiness : σ → Candidate → Except Fault Readiness
  projectReadiness : σ → Candidate → Readiness → Except Fault σ
  admitScheduled : σ → Candidate → Authority → Except (Failure Fault) (Admission × σ)
  reconcileOne : σ → Candidate → Except Fault σ

/-- `ExecutionSchedulerSweepOptions`. -/
structure Options where
  maxAdmissions : Option Nat
  mode : Option Mode
  operationId : Option String
  planId : Option String

/-! ## The queues -/

def queueKey (c : Candidate) : String := c.planApprovedAt ++ "\x00" ++ c.planId

def enqueue (queues : List (String × List Candidate)) (c : Candidate) :
    List (String × List Candidate) :=
  if queueKey c ∈ queues.map (·.1) then
    queues.map fun q => if q.1 = queueKey c then (q.1, q.2 ++ [c]) else q
  else queues ++ [(queueKey c, [c])]

/-- **`planQueues`.** -/
def planQueues (candidates : List Candidate) : List (List Candidate) :=
  (candidates.foldl enqueue []).map (·.2)

/-- The place of the queue that goes next: of those whose head has the Agent of the first, the one
after the queue that the Agent's cursor names. -/
def selected (cursor : String → Option Cursor) (remaining : List (Nat × List Candidate)) : Nat :=
  match remaining.head?.bind (·.2.head?) with
  | none => 0
  | some base =>
    let matching := remaining.zipIdx.filter fun q =>
      q.1.2.head?.map (·.agentId) = some base.agentId
    let next := match cursor base.agentId with
      | none => 0
      | some cursor =>
        match matching.findIdx? fun q =>
          q.1.2.head?.map (fun c => (c.planId, c.planRevision)) =
            some (cursor.lastPlanId, cursor.lastPlanRevision) with
        | none => 0
        | some previous => previous + 1
    (matching[next % matching.length]?.map (·.2)).getD 0

/-- `orderQueues`: one selection for each remaining queue. -/
def order (cursor : String → Option Cursor) : Nat → List (Nat × List Candidate) → List Nat
  | 0, _ => []
  | n + 1, remaining =>
    match remaining[selected cursor remaining]? with
    | none => []
    | some q => q.1 :: order cursor n (remaining.eraseIdx (selected cursor remaining))

/-- The queues that are not empty, by their place. -/
def remainingQueues (queues : List (List Candidate)) : List (Nat × List Candidate) :=
  (queues.zipIdx.filter fun q => !q.1.isEmpty).map fun q => (q.2, q.1)

/-- **`orderQueues`.** -/
def orderQueues (cursor : String → Option Cursor) (queues : List (List Candidate)) : List Nat :=
  order cursor (remainingQueues queues).length (remainingQueues queues)

/-! ## The sweep -/

inductive Event where
  | round (round : Nat) (queues : List (List Candidate))
  | evaluated (round : Nat) (c : Candidate)
  | failed (round : Nat) (c : Candidate) (code : String)
  | existing (round : Nat) (c : Candidate) (runId : String)
  | admitted (round : Nat) (c : Candidate) (runId : String)

structure Sweep (σ : Type) where
  world : σ
  evaluated : Nat
  admitted : List String
  round : Nat
  log : List Event

/-- What bounds a sweep, and on whose authority it admits. -/
structure Limits where
  maxCandidateEvaluations : Nat
  maxAdmissions : Nat
  mode : Mode
  operationId : Option String

def Options.limits (options : Options) (maxCandidateEvaluations : Nat) : Limits where
  maxCandidateEvaluations
  maxAdmissions := options.maxAdmissions.getD maxCandidateEvaluations
  mode := options.mode.getD .automatic
  operationId := options.operationId

/-- An automatic sweep has no operation, any other has one. -/
def Options.authorised (options : Options) : Prop :=
  options.mode.getD .automatic = .automatic ↔ options.operationId = none

instance (options : Options) : Decidable options.authorised :=
  inferInstanceAs (Decidable (_ ↔ _))

section Model

variable {σ Fault : Type}

/-- `evaluated < maxCandidateEvaluations && admitted.length < maxAdmissions`. -/
def Sweep.below (s : Sweep σ) (l : Limits) : Prop :=
  s.evaluated < l.maxCandidateEvaluations ∧ s.admitted.length < l.maxAdmissions

instance (s : Sweep σ) (l : Limits) : Decidable (s.below l) :=
  inferInstanceAs (Decidable (_ ∧ _))

/-- How the visit of a queue ends: past its candidates or at a limit, with an admission, or with
a fault. -/
inductive Ending (Fault : Type) where
  | done
  | admitted
  | aborted (fault : Fault)

structure Visit (σ Fault : Type) where
  queue : List Candidate
  ending : Ending Fault
  sweep : Sweep σ

variable (h : Host σ Fault) (l : Limits)

def authority (world : σ) (identity : Candidate) : Authority where
  expectedFairnessCursorRevision :=
    ((h.cursor world identity.agentId).map (·.cursorRevision)).getD 0
  mode := l.mode
  modeRevision := identity.schedulerModeRevision
  operationId := l.operationId

/-- **The visit of a queue.** `todo` are the candidates of this round that are still ahead, and
`kept` those that went back to the end of the queue. -/
def visit : List Candidate → List Candidate → Sweep σ → Visit σ Fault
  | [], kept, s => ⟨kept, .done, s⟩
  | identity :: todo, kept, s =>
    if s.below l then
      let s := { s with
        evaluated := s.evaluated + 1
        log := s.log ++ [Event.evaluated s.round identity] }
      match h.readiness s.world identity with
      | .error fault => ⟨todo ++ kept, .aborted fault, s⟩
      | .ok readiness =>
        match h.projectReadiness s.world identity readiness with
        | .error fault => ⟨todo ++ kept, .aborted fault, s⟩
        | .ok world =>
          match readiness with
          | .blocked _ => visit todo (kept ++ [identity]) { s with world }
          | .ready =>
            match h.admitScheduled world identity (authority h l world identity) with
            | .error (.other fault) => ⟨todo ++ kept, .aborted fault, { s with world }⟩
            | .error (.execution code) =>
              let s := { s with log := s.log ++ [Event.failed s.round identity code] }
              match h.projectReadiness world identity (.blocked code) with
              | .error fault => ⟨todo ++ kept, .aborted fault, { s with world }⟩
              | .ok world => visit todo (kept ++ [identity]) { s with world }
            | .ok (.existing runId, world) =>
              let s := { s with log := s.log ++ [Event.existing s.round identity runId] }
              visit todo kept { s with world }
            | .ok (.created runId, world) =>
              let s := { s with
                admitted := s.admitted ++ [runId]
                log := s.log ++ [Event.admitted s.round identity runId] }
              match h.reconcileOne world identity with
              | .error fault => ⟨todo ++ kept, .aborted fault, { s with world }⟩
              | .ok world => ⟨todo ++ kept, .admitted, { s with world }⟩
    else ⟨identity :: todo ++ kept, .done, s⟩

structure Round (σ Fault : Type) where
  queues : List (List Candidate)
  progressed : Bool
  fault : Option Fault
  sweep : Sweep σ

/-- **One round**: the queues in their order. -/
def visitAll : List Nat → List (List Candidate) → Bool → Sweep σ → Round σ Fault
  | [], queues, progressed, s => ⟨queues, progressed, none, s⟩
  | i :: rest, queues, progressed, s =>
    let out := visit h l (queues.getD i []) [] s
    match out.ending with
    | .done => visitAll rest (queues.set i out.queue) progressed out.sweep
    | .admitted => visitAll rest (queues.set i out.queue) true out.sweep
    | .aborted fault => ⟨queues.set i out.queue, progressed, some fault, out.sweep⟩

/-- **The rounds**, as many as `fuel` allows; `none` if there are more. -/
def rounds : Nat → List (List Candidate) → Sweep σ → Option (Option Fault × Sweep σ)
  | 0, _, _ => none
  | fuel + 1, queues, s =>
    if s.below l then
      match h.reconcile s.world with
      | .error fault => some (some fault, s)
      | .ok world =>
        let s := { s with
          world
          round := s.round + 1
          log := s.log ++ [Event.round (s.round + 1) queues] }
        let out := visitAll h l (orderQueues (h.cursor world) queues) queues false s
        match out.fault with
        | some fault => some (some fault, out.sweep)
        | none =>
          if out.progressed = false ∨ out.queues.all (·.isEmpty) = true then
            some (none, out.sweep)
          else rounds fuel out.queues out.sweep
    else some (none, s)

/-- What a sweep returns or throws, and what it did. -/
structure Outcome (σ Fault : Type) where
  answer : Except (Failure Fault) (List String)
  sweep : Sweep σ

def Sweep.start (world : σ) : Sweep σ := ⟨world, 0, [], 0, []⟩

def listed (tables : σ → Tables Fault) (options : Options) (world : σ) :
    Except Fault (List Candidate) :=
  listCandidates h.outside (tables world) (some (options.mode.getD .automatic))
    (options.planId.filter (· ≠ ""))

/-- **`sweep`.** `tables` are the rows that `listCandidates` finds, and `sweeping` is the flag of a
sweep that is under way. -/
def sweep (tables : σ → Tables Fault) (sweeping : Bool) (maxCandidateEvaluations : Nat)
    (options : Options) (fuel : Nat) (world : σ) : Option (Outcome σ Fault) :=
  if sweeping then some ⟨.ok [], .start world⟩
  else
    let l := options.limits maxCandidateEvaluations
    if options.authorised then
      match h.ensureCurrent world with
      | .error fault => some ⟨.error (.other fault), .start world⟩
      | .ok world =>
        match listed h tables options world with
        | .error fault => some ⟨.error (.other fault), .start world⟩
        | .ok candidates =>
          (rounds h l fuel (planQueues candidates) (.start world)).map fun out =>
            match out.1 with
            | some fault => ⟨.error (.other fault), out.2⟩
            -- one Run for each id, at the place of the first
            | none => ⟨.ok out.2.admitted.eraseDups, out.2⟩
    else some ⟨.error (.execution "EXECUTION_SCHEDULER_AUTHORITY_INVALID"), .start world⟩

end Model

/-! ## One queue for each key -/

/-- The queues are the candidates, one key each. -/
structure Grouped (candidates : List Candidate) (queues : List (String × List Candidate)) :
    Prop where
  keys : (queues.map (·.1)).Nodup
  queue : ∀ q ∈ queues, q.2 = candidates.filter fun c => queueKey c = q.1
  covers : ∀ c ∈ candidates, queueKey c ∈ queues.map (·.1)

theorem Grouped.enqueue {candidates : List Candidate} {queues : List (String × List Candidate)}
    (h : Grouped candidates queues) (c : Candidate) :
    Grouped (candidates ++ [c]) (enqueue queues c) := by
  unfold Scheduler.enqueue
  split
  · next hin =>
      -- the key has a queue: the candidate joins its end
      have hkeys : (queues.map fun q => if q.1 = queueKey c then (q.1, q.2 ++ [c]) else q).map (·.1)
          = queues.map (·.1) := by
        rw [List.map_map]
        refine List.map_congr_left fun q _ => ?_
        simp only [Function.comp_apply]
        split <;> rfl
      refine ⟨hkeys ▸ h.keys, fun q hq => ?_, fun c' hc' => ?_⟩
      · obtain ⟨p, hp, rfl⟩ := List.mem_map.mp hq
        rw [List.filter_append]
        by_cases heq : p.1 = queueKey c
        · simp [heq, h.queue p hp]
        · simp [heq, Ne.symm heq, ← h.queue p hp]
      · rw [hkeys]
        obtain hc' | rfl := List.mem_append.mp hc' |>.imp_right List.mem_singleton.mp
        · exact h.covers c' hc'
        · exact hin
  · next hout =>
      refine ⟨?_, fun q hq => ?_, fun c' hc' => ?_⟩
      · rw [List.map_append]
        exact h.keys.append (List.nodup_singleton _)
          (List.disjoint_singleton.mpr hout)
      · obtain hq | rfl := List.mem_append.mp hq |>.imp_right List.mem_singleton.mp
        · -- a new key opens a queue of its own
          have hne : queueKey c ≠ q.1 := by
            rintro heq
            exact hout (heq ▸ List.mem_map_of_mem hq)
          rw [h.queue q hq, List.filter_append]
          simp [hne]
        · have hnone : candidates.filter (fun c' => queueKey c' = queueKey c) = [] := by
            refine List.filter_eq_nil_iff.mpr fun c' hc' => ?_
            simp only [decide_eq_true_eq]
            exact fun heq => hout (heq ▸ h.covers c' hc')
          rw [List.filter_append, hnone]
          simp
      · rw [List.map_append]
        obtain hc' | rfl := List.mem_append.mp hc' |>.imp_right List.mem_singleton.mp
        · exact List.mem_append_left _ (h.covers c' hc')
        · exact List.mem_append_right _ List.mem_cons_self

theorem grouped_foldl (candidates : List Candidate) :
    Grouped candidates (candidates.foldl enqueue []) := by
  induction candidates using List.reverseRecOn with
  | nil => exact ⟨List.nodup_nil, nofun, nofun⟩
  | append_singleton candidates c ih =>
    rw [List.foldl_append]
    exact ih.enqueue c

/-- What a round needs of the queues: no candidate twice, and no plan in two of them. -/
structure Apart (queues : List (List Candidate)) : Prop where
  nodup : ∀ q ∈ queues, q.Nodup
  plans : ∀ (i j : Nat) (q q' : List Candidate), queues[i]? = some q → queues[j]? = some q' →
    i ≠ j → ∀ c ∈ q, ∀ c' ∈ q', c.planId ≠ c'.planId

theorem planQueues_apart {candidates : List Candidate} (hnodup : candidates.Nodup)
    (happroved : ∀ c ∈ candidates, ∀ c' ∈ candidates, c.planId = c'.planId →
      c.planApprovedAt = c'.planApprovedAt) : Apart (planQueues candidates) := by
  have h := grouped_foldl candidates
  constructor
  · intro q hq
    obtain ⟨p, hp, rfl⟩ := List.mem_map.mp hq
    rw [h.queue p hp]
    exact hnodup.filter _
  · intro i j q q' hi hj hne c hc c' hc' hplan
    rw [planQueues, List.getElem?_map, Option.map_eq_some_iff] at hi hj
    obtain ⟨p, hp, rfl⟩ := hi
    obtain ⟨p', hp', rfl⟩ := hj
    rw [h.queue p (List.mem_of_getElem? hp), List.mem_filter] at hc
    rw [h.queue p' (List.mem_of_getElem? hp'), List.mem_filter] at hc'
    have hkey : p.1 = p'.1 := by
      rw [← of_decide_eq_true hc.2, ← of_decide_eq_true hc'.2, queueKey, queueKey, hplan,
        happroved c hc.1 c' hc'.1 hplan]
    have hlt := (List.getElem?_eq_some_iff.mp hp).1
    refine hne ((List.getElem?_inj (by rwa [List.length_map]) h.keys).mp ?_)
    rw [List.getElem?_map, List.getElem?_map, hp, hp', Option.map_some, Option.map_some, hkey]

/-! ## The order of a round -/

theorem selected_lt (cursor : String → Option Cursor) {remaining : List (Nat × List Candidate)}
    (hne : remaining ≠ []) : selected cursor remaining < remaining.length := by
  have hpos := List.length_pos_iff.mpr hne
  unfold selected
  split
  · exact hpos
  · next base _ =>
      generalize hmatching : (remaining.zipIdx.filter fun q =>
        decide (q.1.2.head?.map (·.agentId) = some base.agentId)) = matching
      simp only
      cases hchosen : matching[_ % matching.length]? with
      | none => exact hpos
      | some q =>
        have hin := List.mem_of_getElem? hchosen
        rw [← hmatching] at hin
        simpa using List.snd_lt_of_mem_zipIdx (List.mem_of_mem_filter hin)

theorem order_perm (cursor : String → Option Cursor) (remaining : List (Nat × List Candidate)) :
    (order cursor remaining.length remaining).Perm (remaining.map (·.1)) := by
  generalize hlength : remaining.length = n
  induction n generalizing remaining with
  | zero =>
    rw [List.length_eq_zero_iff.mp hlength]
    exact .nil
  | succ n ih =>
    have hne : remaining ≠ [] := by
      rintro rfl
      cases hlength
    have hlt := selected_lt cursor hne
    have hrest : (remaining.eraseIdx (selected cursor remaining)).length = n := by
      rw [List.length_eraseIdx_of_lt hlt, hlength, Nat.add_sub_cancel]
    rw [order, List.getElem?_eq_getElem hlt]
    refine ((ih _ hrest).cons _).trans ?_
    exact (List.getElem_cons_eraseIdx_perm hlt).map (·.1)

theorem mem_orderQueues (cursor : String → Option Cursor) (queues : List (List Candidate))
    (i : Nat) : i ∈ orderQueues cursor queues ↔ ∃ q, queues[i]? = some q ∧ q ≠ [] := by
  rw [orderQueues, (order_perm _ _).mem_iff, remainingQueues, List.map_map, List.mem_map]
  constructor
  · rintro ⟨⟨q, i⟩, hq, rfl⟩
    obtain ⟨hin, hne⟩ := List.mem_filter.mp hq
    exact ⟨q, List.mem_zipIdx_iff_getElem?.mp hin, by simpa using hne⟩
  · rintro ⟨q, hq, hne⟩
    exact ⟨(q, i), List.mem_filter.mpr
      ⟨List.mem_zipIdx_iff_getElem?.mpr hq, by simpa using hne⟩, rfl⟩

theorem nodup_orderQueues (cursor : String → Option Cursor) (queues : List (List Candidate)) :
    (orderQueues cursor queues).Nodup := by
  rw [orderQueues, (order_perm _ _).nodup_iff, remainingQueues, List.map_map]
  exact (List.filter_sublist.map _).nodup (List.nodup_zipIdx_map_snd queues)

end AgentRoom.Scheduler
