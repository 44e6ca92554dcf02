import AgentRoom.Scheduler.Sweep

/-!
# What a turn depends on

When the turn of a candidate comes is decided by its place in the order, and by the Agent and the
plan revision that the cursors name; the host decides what becomes of it. Two sweeps whose lists
agree in that, on hosts that answer alike, do the same: whatever the rows hold besides, and in
whatever order they come.
-/

namespace AgentRoom.Scheduler

/-- What decides when the turn of a candidate comes: approval time, plan, ordinal and node key for
the order, Agent and plan revision for the cursors. The rest only reaches the host. -/
def Candidate.turn (c : Candidate) : Candidate :=
  { c with schedulerMode := .automatic, schedulerModeRevision := 0 }

def turns (queue : List Candidate) : List Candidate := queue.map Candidate.turn

def Event.turn : Event → Event
  | .round n queues => .round n (queues.map turns)
  | .evaluated n c => .evaluated n c.turn
  | .failed n c code => .failed n c.turn code
  | .existing n c runId => .existing n c.turn runId
  | .admitted n c runId => .admitted n c.turn runId

/-- The plan that a cursor names. -/
def Cursor.last (cursor : Cursor) : String × Nat := (cursor.lastPlanId, cursor.lastPlanRevision)

/-! ## The order -/

variable {cursor cursor' : String → Option Cursor}

/-- A queue with its place. -/
def turnsAt (q : Nat × List Candidate) : Nat × List Candidate := (q.1, turns q.2)

theorem head_turnsAt {α : Type} {f : Candidate → α} (hf : ∀ c : Candidate, f c.turn = f c)
    (q : Nat × List Candidate) : (turnsAt q).2.head?.map f = q.2.head?.map f := by
  rw [turnsAt, turns, List.head?_map, Option.map_map]
  exact congrFun (congrArg _ (funext hf)) _

theorem selected_turnsAt (remaining : List (Nat × List Candidate)) :
    selected cursor (remaining.map turnsAt) = selected cursor remaining := by
  have hbase : (remaining.map turnsAt).head?.bind (·.2.head?) =
      (remaining.head?.bind (·.2.head?)).map Candidate.turn := by
    cases remaining with
    | nil => rfl
    | cons q _ => exact List.head?_map
  unfold selected
  rw [hbase]
  cases remaining.head?.bind (·.2.head?) with
  | none => rfl
  | some base =>
    have hmatching : (remaining.map turnsAt).zipIdx.filter
        (fun q => q.1.2.head?.map (·.agentId) = some base.agentId) =
        (remaining.zipIdx.filter fun q => q.1.2.head?.map (·.agentId) = some base.agentId).map
          (Prod.map turnsAt id) := by
      rw [List.zipIdx_map, List.filter_map]
      refine congrArg _ (List.filter_congr fun q _ => ?_)
      simp only [Function.comp_apply, Prod.map_fst, head_turnsAt (f := (·.agentId)) fun _ => rfl]
    dsimp only [Option.map_some]
    rw [show base.turn.agentId = base.agentId from rfl, hmatching]
    generalize remaining.zipIdx.filter _ = matching
    have hfind : ∀ last : String × Nat, (matching.map (Prod.map turnsAt id)).findIdx?
        (fun q => q.1.2.head?.map (fun c => (c.planId, c.planRevision)) = some last) =
        matching.findIdx? fun q =>
          q.1.2.head?.map (fun c => (c.planId, c.planRevision)) = some last := by
      intro last
      rw [List.findIdx?_map]
      refine congrFun (congrArg _ (funext fun q => ?_)) _
      simp only [Function.comp_apply, Prod.map_fst,
        head_turnsAt (f := fun c => (c.planId, c.planRevision)) fun _ => rfl]
    simp only [hfind, List.length_map, List.getElem?_map, Option.map_map]
    rfl

theorem selected_last (hlast : ∀ agentId, (cursor agentId).map Cursor.last =
    (cursor' agentId).map Cursor.last) (remaining : List (Nat × List Candidate)) :
    selected cursor remaining = selected cursor' remaining := by
  unfold selected
  cases remaining.head?.bind (·.2.head?) with
  | none => rfl
  | some base =>
    have hbase := hlast base.agentId
    dsimp only
    cases hc : cursor base.agentId with
    | none =>
      rw [hc] at hbase
      rw [Option.map_eq_none_iff.mp hbase.symm]
    | some c =>
      rw [hc] at hbase
      obtain ⟨c', hc', heq⟩ := Option.map_eq_some_iff.mp hbase.symm
      obtain ⟨hplan, hrevision⟩ := Prod.mk.inj heq
      rw [hc']
      dsimp only
      rw [hplan, hrevision]

theorem order_turnsAt (hlast : ∀ agentId, (cursor agentId).map Cursor.last =
    (cursor' agentId).map Cursor.last) (n : Nat) (remaining : List (Nat × List Candidate)) :
    order cursor n (remaining.map turnsAt) = order cursor' n remaining := by
  induction n generalizing remaining with
  | zero => rfl
  | succ n ih =>
    rw [order, order, selected_turnsAt, selected_last hlast, List.getElem?_map]
    cases remaining[selected cursor' remaining]? with
    | none => rfl
    | some q =>
      dsimp only [Option.map_some]
      rw [List.eraseIdx_map, ih]
      rfl

theorem remainingQueues_turns (queues : List (List Candidate)) :
    remainingQueues (queues.map turns) = (remainingQueues queues).map turnsAt := by
  unfold remainingQueues
  rw [List.zipIdx_map, List.filter_map, List.map_map, List.map_map]
  refine congrArg _ (List.filter_congr fun q _ => ?_)
  simp [turns]

variable {queues queues' : List (List Candidate)}

/-- The order of a round. -/
theorem orderQueues_turns
    (hlast : ∀ agentId, (cursor agentId).map Cursor.last = (cursor' agentId).map Cursor.last)
    (h : queues.map turns = queues'.map turns) :
    orderQueues cursor queues = orderQueues cursor' queues' := by
  have hturned : ∀ (cursor cursor' : String → Option Cursor) (queues : List (List Candidate)),
      (∀ agentId, (cursor agentId).map Cursor.last = (cursor' agentId).map Cursor.last) →
      orderQueues cursor (queues.map turns) = orderQueues cursor' queues := by
    intro cursor cursor' queues hlast
    rw [orderQueues, orderQueues, remainingQueues_turns, List.length_map, order_turnsAt hlast]
  rw [← hturned cursor cursor queues fun _ => rfl, h, hturned cursor cursor' queues' hlast]

theorem planQueues_turns (candidates : List Candidate) :
    planQueues (turns candidates) = (planQueues candidates).map turns := by
  have hkeyed : ∀ queues : List (String × List Candidate), (turns candidates).foldl enqueue
      (queues.map (Prod.map id turns)) =
      (candidates.foldl enqueue queues).map (Prod.map id turns) := by
    induction candidates with
    | nil => exact fun _ => rfl
    | cons c candidates ih =>
      intro queues
      rw [List.foldl_cons, ← ih, turns, List.map_cons, List.foldl_cons]
      refine congrArg (List.foldl enqueue · _) ?_
      unfold enqueue
      simp only [List.map_map, show queueKey c.turn = queueKey c from rfl]
      rw [show ((·.1) ∘ Prod.map id turns : String × List Candidate → String) = (·.1) from rfl]
      split
      · rw [List.map_map]
        refine List.map_congr_left fun q _ => ?_
        simp only [Function.comp_apply, Prod.map_fst, id_eq, Prod.map_snd]
        split <;> simp [turns, Prod.map]
      · rw [List.map_append]
        rfl
  have h := hkeyed []
  rw [List.map_nil] at h
  rw [planQueues, planQueues, h, List.map_map, List.map_map]
  rfl

/-! ## The lists -/

theorem candidateLe_turn {c c' : Candidate} : candidateLe c.turn c'.turn ↔ candidateLe c c' :=
  Iff.rfl

/-- Two listings of the same candidates, in any order. -/
def SameListing {Fault : Type} (x y : Except Fault (List Candidate)) : Prop :=
  (∃ fault fault', x = .error fault ∧ y = .error fault') ∨
    ∃ candidates candidates', x = .ok candidates ∧ y = .ok candidates' ∧
      ∀ c, c ∈ turns candidates ↔ c ∈ turns candidates'

section Listed

variable {Fault : Type} {outside outside' : Fault} {t t' : Tables Fault} {mode : Option Mode}
  {planId : Option String} {candidates candidates' : List Candidate}

theorem nodup_turns (h : listCandidates outside t mode planId = .ok candidates) :
    (turns candidates).Nodup := by
  refine (nodup_candidates h).map_on fun c hc c' hc' heq => ?_
  have hplan : c.planId = c'.planId := congrArg (·.planId) heq
  have hnode : c.nodeKey = c'.nodeKey := congrArg (·.nodeKey) heq
  exact eq_of_node h hc hc' hplan hnode

/-- **The order of a listing** is a matter of the turns alone. -/
theorem turns_eq (h : listCandidates outside t mode planId = .ok candidates)
    (h' : listCandidates outside' t' mode planId = .ok candidates')
    (hsame : ∀ c, c ∈ turns candidates ↔ c ∈ turns candidates') :
    turns candidates = turns candidates' := by
  have hsorted : ∀ {outside : Fault} {t : Tables Fault} {candidates : List Candidate},
      listCandidates outside t mode planId = .ok candidates →
      (turns candidates).Pairwise candidateLe := by
    intro outside t candidates h
    obtain ⟨listed, -, hsorted⟩ := Except.of_bind h
    obtain rfl := Except.ok.inj hsorted
    exact (List.pairwise_insertionSort _ _).map _ fun _ _ => candidateLe_turn.mpr
  refine List.Perm.eq_of_pairwise ?_ (hsorted h) (hsorted h')
    ((List.perm_ext_iff_of_nodup (nodup_turns h) (nodup_turns h')).mpr hsame)
  intro a b ha hb hab hba
  obtain ⟨c, hc, rfl⟩ := List.mem_map.mp ha
  obtain ⟨c', hc', rfl⟩ := List.mem_map.mp ((hsame b).mpr hb)
  obtain ⟨hplan, hnode⟩ := candidateLe_antisymm hab hba
  rw [eq_of_node h hc hc' hplan hnode]

end Listed

/-! ## Hosts that answer alike -/

/-- Both throw the same, or their results are related. -/
def SameResult {ε α β : Type} (R : α → β → Prop) (x : Except ε α) (y : Except ε β) : Prop :=
  (∃ e, x = .error e ∧ y = .error e) ∨ ∃ a b, x = .ok a ∧ y = .ok b ∧ R a b

variable {σ σ' Fault : Type} {R : σ → σ' → Prop} {l : Limits}

/-- In related worlds the calls about candidates of the same turn have the same outcome, the
cursors name the same plans and the same candidates are listed. -/
structure Agrees (R : σ → σ' → Prop) (l : Limits) (h : Host σ Fault) (h' : Host σ' Fault)
    (listed : σ → Except Fault (List Candidate)) (listed' : σ' → Except Fault (List Candidate)) :
    Prop where
  ensureCurrent : ∀ {w w'}, R w w' → SameResult R (h.ensureCurrent w) (h'.ensureCurrent w')
  listed : ∀ {w w'}, R w w' → SameListing (listed w) (listed' w')
  reconcile : ∀ {w w'}, R w w' → SameResult R (h.reconcile w) (h'.reconcile w')
  cursor : ∀ {w w'}, R w w' → ∀ agentId,
    (h.cursor w agentId).map Cursor.last = (h'.cursor w' agentId).map Cursor.last
  readiness : ∀ {w w' c c'}, R w w' → c.turn = c'.turn → h.readiness w c = h'.readiness w' c'
  projectReadiness : ∀ {w w' c c'}, R w w' → c.turn = c'.turn → ∀ readiness,
    SameResult R (h.projectReadiness w c readiness) (h'.projectReadiness w' c' readiness)
  admitScheduled : ∀ {w w' c c'}, R w w' → c.turn = c'.turn →
    SameResult (fun a a' => a.1 = a'.1 ∧ R a.2 a'.2)
      (h.admitScheduled w c (authority h l w c)) (h'.admitScheduled w' c' (authority h' l w' c'))
  reconcileOne : ∀ {w w' c c'}, R w w' → c.turn = c'.turn →
    SameResult R (h.reconcileOne w c) (h'.reconcileOne w' c')

/-! ## The same sweep -/

/-- Sweeps that have done the same so far. -/
structure Alike (R : σ → σ' → Prop) (s : Sweep σ) (s' : Sweep σ') : Prop where
  world : R s.world s'.world
  evaluated : s.evaluated = s'.evaluated
  admitted : s.admitted = s'.admitted
  round : s.round = s'.round
  log : s.log.map Event.turn = s'.log.map Event.turn

variable {s : Sweep σ} {s' : Sweep σ'}

theorem Alike.below_iff (hs : Alike R s s') :
    s.below l ↔ s'.below l := by
  rw [Sweep.below, Sweep.below, hs.evaluated, hs.admitted]

theorem append_turn {log log' : List Event} (h : log.map Event.turn = log'.map Event.turn)
    {e e' : Event} (he : e.turn = e'.turn) :
    (log ++ [e]).map Event.turn = (log' ++ [e']).map Event.turn := by
  rw [List.map_append, List.map_append, h, List.map_singleton, List.map_singleton, he]

structure AlikeVisit (R : σ → σ' → Prop) (out : Visit σ Fault) (out' : Visit σ' Fault) :
    Prop where
  queue : turns out.queue = turns out'.queue
  ending : out.ending = out'.ending
  sweep : Alike R out.sweep out'.sweep

variable {h : Host σ Fault} {h' : Host σ' Fault} {listed : σ → Except Fault (List Candidate)}
  {listed' : σ' → Except Fault (List Candidate)}

/-- **The visits of a queue** go alike, by induction on the candidates that are ahead. -/
theorem visit_alike (ha : Agrees R l h h' listed listed') {todo todo' kept kept' : List Candidate}
    (htodo : turns todo = turns todo') (hkept : turns kept = turns kept') (hs : Alike R s s') :
    AlikeVisit R (visit h l todo kept s) (visit h' l todo' kept' s') := by
  induction todo generalizing todo' kept kept' s s' with
  | nil =>
    obtain rfl := List.map_eq_nil_iff.mp htodo.symm
    exact ⟨hkept, rfl, hs⟩
  | cons c todo ih =>
    obtain ⟨c', todo', rfl, hturn, hrest⟩ := List.map_eq_cons_iff.mp htodo.symm
    have hrest : turns todo = turns todo' := hrest.symm
    have hturn : c.turn = c'.turn := hturn.symm
    have hback : turns (kept ++ [c]) = turns (kept' ++ [c']) := by
      simp only [turns, List.map_append, List.map_singleton, hturn] at hkept ⊢
      rw [hkept]
    have hqueue : turns (todo ++ kept) = turns (todo' ++ kept') := by
      simp only [turns, List.map_append] at hkept hrest ⊢
      rw [hkept, hrest]
    rw [visit, visit]
    by_cases hbelow : s.below l
    · rw [if_pos hbelow, if_pos (hs.below_iff.mp hbelow)]
      dsimp only
      have hround := hs.round
      -- the entry that each candidate leaves
      have hlog : (s.log ++ [Event.evaluated s.round c]).map Event.turn =
          (s'.log ++ [Event.evaluated s'.round c']).map Event.turn :=
        append_turn hs.log (by simp only [Event.turn, hround, hturn])
      have hevaluated : ∀ {w w'}, R w w' → Alike R
          ⟨w, s.evaluated + 1, s.admitted, s.round, s.log ++ [.evaluated s.round c]⟩
          ⟨w', s'.evaluated + 1, s'.admitted, s'.round, s'.log ++ [.evaluated s'.round c']⟩ :=
        fun hw => ⟨hw, congrArg _ hs.evaluated, hs.admitted, hround, hlog⟩
      rw [ha.readiness hs.world hturn]
      cases h'.readiness s'.world c' with
      | error fault => exact ⟨hqueue, rfl, hevaluated hs.world⟩
      | ok readiness =>
        dsimp only
        obtain ⟨fault, hp, hp'⟩ | ⟨w, w', hp, hp', hworld⟩ :=
          ha.projectReadiness hs.world hturn readiness
        · rw [hp, hp']
          exact ⟨hqueue, rfl, hevaluated hs.world⟩
        rw [hp, hp']
        cases readiness with
        | blocked code => exact ih hrest hback (hevaluated hworld)
        | ready =>
          dsimp only
          obtain ⟨failure, hp, hp'⟩ | ⟨⟨admission, w₁⟩, ⟨_, w₁'⟩, hp, hp', rfl, hworld₁⟩ :=
            ha.admitScheduled hworld hturn
          · rw [hp, hp']
            cases failure with
            | other fault => exact ⟨hqueue, rfl, hevaluated hworld⟩
            | execution code =>
              have hevent : (Event.failed s.round c code).turn =
                  (Event.failed s'.round c' code).turn := by
                simp only [Event.turn, hround, hturn]
              have hfailed := append_turn hlog hevent
              dsimp only
              obtain ⟨fault, hp, hp'⟩ | ⟨w₁, w₁', hp, hp', hworld₁⟩ :=
                ha.projectReadiness hworld hturn (.blocked code)
              · rw [hp, hp']
                exact ⟨hqueue, rfl, hworld, congrArg _ hs.evaluated, hs.admitted, hround, hfailed⟩
              · rw [hp, hp']
                exact ih hrest hback
                  ⟨hworld₁, congrArg _ hs.evaluated, hs.admitted, hround, hfailed⟩
          · rw [hp, hp']
            cases admission with
            | existing runId =>
              exact ih hrest hkept ⟨hworld₁, congrArg _ hs.evaluated, hs.admitted, hround,
                append_turn hlog (by simp only [Event.turn, hround, hturn])⟩
            | created runId =>
              have hevent : (Event.admitted s.round c runId).turn =
                  (Event.admitted s'.round c' runId).turn := by
                simp only [Event.turn, hround, hturn]
              have hcreated := append_turn hlog hevent
              have hadmitted : s.admitted ++ [runId] = s'.admitted ++ [runId] :=
                congrArg (· ++ [runId]) hs.admitted
              dsimp only
              obtain ⟨fault, hp, hp'⟩ | ⟨w₂, w₂', hp, hp', hworld₂⟩ :=
                ha.reconcileOne hworld₁ hturn
              · rw [hp, hp']
                exact ⟨hqueue, rfl, hworld₁, congrArg _ hs.evaluated, hadmitted, hround, hcreated⟩
              · rw [hp, hp']
                exact ⟨hqueue, rfl, hworld₂, congrArg _ hs.evaluated, hadmitted, hround, hcreated⟩
    · rw [if_neg hbelow, if_neg (hs.below_iff.not.mp hbelow)]
      refine ⟨?_, rfl, hs⟩
      simp only [turns, List.map_append, List.map_cons, hturn, List.cons_append] at hqueue ⊢
      rw [hqueue]

structure AlikeRound (R : σ → σ' → Prop) (out : Round σ Fault) (out' : Round σ' Fault) :
    Prop where
  queues : out.queues.map turns = out'.queues.map turns
  progressed : out.progressed = out'.progressed
  fault : out.fault = out'.fault
  sweep : Alike R out.sweep out'.sweep

theorem visitAll_alike (ha : Agrees R l h h' listed listed') (pending : List Nat)
    (progressed : Bool) (hqueues : queues.map turns = queues'.map turns) (hs : Alike R s s') :
    AlikeRound R (visitAll h l pending queues progressed s)
      (visitAll h' l pending queues' progressed s') := by
  induction pending generalizing queues queues' progressed s s' with
  | nil => exact ⟨hqueues, rfl, rfl, hs⟩
  | cons i pending ih =>
    have hqueue : turns (queues.getD i []) = turns (queues'.getD i []) := by
      have hi : (queues.map turns)[i]? = (queues'.map turns)[i]? := by rw [hqueues]
      rw [List.getElem?_map, List.getElem?_map] at hi
      rw [List.getD_eq_getElem?_getD, List.getD_eq_getElem?_getD]
      cases hq : queues[i]? with
      | none =>
        rw [hq] at hi
        rw [Option.map_eq_none_iff.mp hi.symm]
      | some q =>
        rw [hq] at hi
        obtain ⟨q', hq', heq⟩ := Option.map_eq_some_iff.mp hi.symm
        rw [hq']
        exact heq.symm
    have hout := visit_alike ha hqueue (rfl : turns [] = turns []) hs
    have hset : (queues.set i (visit h l (queues.getD i []) [] s).queue).map turns =
        (queues'.set i (visit h' l (queues'.getD i []) [] s').queue).map turns := by
      rw [List.map_set, List.map_set, hqueues, hout.queue]
    rw [visitAll, visitAll, ← hout.ending]
    cases (visit h l (queues.getD i []) [] s).ending with
    | done => exact ih progressed hset hout.sweep
    | admitted => exact ih true hset hout.sweep
    | aborted fault => exact ⟨hset, rfl, rfl, hout.sweep⟩

/-- How the rounds of two sweeps end. -/
inductive AlikeRounds (R : σ → σ' → Prop) :
    Option (Option Fault × Sweep σ) → Option (Option Fault × Sweep σ') → Prop where
  | more : AlikeRounds R none none
  | ended (fault : Option Fault) {s : Sweep σ} {s' : Sweep σ'} (sweep : Alike R s s') :
      AlikeRounds R (some (fault, s)) (some (fault, s'))

/-- **The rounds** go alike, by induction on the fuel. -/
theorem rounds_alike (ha : Agrees R l h h' listed listed') (fuel : Nat)
    (hqueues : queues.map turns = queues'.map turns) (hs : Alike R s s') :
    AlikeRounds R (rounds h l fuel queues s) (rounds h' l fuel queues' s') := by
  induction fuel generalizing queues queues' s s' with
  | zero => exact .more
  | succ fuel ih =>
    rw [rounds, rounds]
    by_cases hbelow : s.below l
    · rw [if_pos hbelow, if_pos (hs.below_iff.mp hbelow)]
      obtain ⟨fault, hr, hr'⟩ | ⟨w, w', hr, hr', hworld⟩ := ha.reconcile hs.world
      · rw [hr, hr']
        exact .ended _ hs
      · rw [hr, hr']
        have hround : s.round + 1 = s'.round + 1 := congrArg (· + 1) hs.round
        have hevent : (Event.round (s.round + 1) queues).turn =
            (Event.round (s'.round + 1) queues').turn := by
          simp only [Event.turn, hround, hqueues]
        have hnext : Alike R
            ⟨w, s.evaluated, s.admitted, s.round + 1, s.log ++ [.round (s.round + 1) queues]⟩
            ⟨w', s'.evaluated, s'.admitted, s'.round + 1,
              s'.log ++ [.round (s'.round + 1) queues']⟩ :=
          ⟨hworld, hs.evaluated, hs.admitted, hround, append_turn hs.log hevent⟩
        have hout := visitAll_alike ha (orderQueues (h.cursor w) queues) false hqueues hnext
        dsimp only
        rw [← orderQueues_turns (ha.cursor hworld) hqueues]
        generalize visitAll h l _ queues false _ = out at hout ⊢
        generalize visitAll h' l _ queues' false _ = out' at hout ⊢
        rw [← hout.fault, ← hout.progressed]
        cases out.fault with
        | some fault => exact .ended _ hout.sweep
        | none =>
          have hempty : out.queues.all (·.isEmpty) = out'.queues.all (·.isEmpty) := by
            have hall := congrArg (·.all (·.isEmpty)) hout.queues
            simpa [List.all_map, Function.comp_def, turns] using hall
          dsimp only
          rw [hempty]
          split
          · exact .ended _ hout.sweep
          · exact ih hout.queues hout.sweep
    · rw [if_neg hbelow, if_neg (hs.below_iff.not.mp hbelow)]
      exact .ended _ hs

/-- Sweeps that do the same: the same log, up to what the turns leave out, and the same answer. If
the listing fails, both throw. -/
structure AlikeSweep (R : σ → σ' → Prop) (out : Outcome σ Fault) (out' : Outcome σ' Fault) :
    Prop where
  sweep : Alike R out.sweep out'.sweep
  answer : out'.answer = out.answer ∨
    ∃ e e', out.answer = .error e ∧ out'.answer = .error e' ∧ out.sweep.log = []

/-- **Nothing else matters** to a sweep. -/
theorem sweep_alike {tables : σ → Tables Fault} {tables' : σ' → Tables Fault} {sweeping : Bool}
    {maxCandidateEvaluations : Nat} {options : Options}
    (ha : Agrees R (options.limits maxCandidateEvaluations) h h'
      (Scheduler.listed h tables options) (Scheduler.listed h' tables' options))
    {world : σ} {world' : σ'} (hworld : R world world') {fuel : Nat} {out : Outcome σ Fault}
    {out' : Outcome σ' Fault}
    (hout : sweep h tables sweeping maxCandidateEvaluations options fuel world = some out)
    (hout' : sweep h' tables' sweeping maxCandidateEvaluations options fuel world' = some out') :
    AlikeSweep R out out' := by
  unfold sweep at hout hout'
  have hempty : ∀ {w w'}, R w w' → Alike R (.start w) (.start w') := fun hw =>
    ⟨hw, rfl, rfl, rfl, rfl⟩
  cases sweeping with
  | true =>
    cases hout
    cases hout'
    exact ⟨hempty hworld, .inl rfl⟩
  | false =>
    simp only [Bool.false_eq_true, if_false] at hout hout'
    split at hout
    · next hauthority =>
        rw [if_pos hauthority] at hout'
        obtain ⟨fault, he, he'⟩ | ⟨w, w', he, he', hw⟩ := ha.ensureCurrent hworld
        · rw [he] at hout
          rw [he'] at hout'
          cases hout
          cases hout'
          exact ⟨hempty hworld, .inl rfl⟩
        rw [he] at hout
        rw [he'] at hout'
        dsimp only at hout hout'
        obtain ⟨fault, fault', hl, hl'⟩ | ⟨candidates, candidates', hl, hl', hsame⟩ := ha.listed hw
        · rw [hl] at hout
          rw [hl'] at hout'
          cases hout
          cases hout'
          exact ⟨hempty hw, .inr ⟨_, _, rfl, rfl, rfl⟩⟩
        rw [hl] at hout
        rw [hl'] at hout'
        -- the candidates come in one order up to their turns, so do the queues
        have hqueues : (planQueues candidates).map turns = (planQueues candidates').map turns := by
          rw [← planQueues_turns, ← planQueues_turns, turns_eq hl hl' hsame]
        have hrounds := rounds_alike ha fuel hqueues (hempty hw)
        dsimp only at hout hout'
        generalize rounds h _ fuel _ _ = r at hout hrounds
        generalize rounds h' _ fuel _ _ = r' at hout' hrounds
        cases hrounds with
        | more => cases hout
        | ended fault hs =>
          cases fault with
          | some fault =>
            cases hout
            cases hout'
            exact ⟨hs, .inl rfl⟩
          | none =>
            cases hout
            cases hout'
            exact ⟨hs, .inl (congrArg (fun runs : List String => Except.ok runs.eraseDups)
              hs.admitted.symm)⟩
    · next hauthority =>
        rw [if_neg hauthority] at hout'
        cases hout
        cases hout'
        exact ⟨hempty hworld, .inl rfl⟩

end AgentRoom.Scheduler
