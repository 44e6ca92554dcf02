import AgentRoom.Scheduler.Turns

/-!
# The law of the sweep

What the visit of one queue adds to the log is said once, as `Visited`. From it a round keeps the
invariant of the sweep, and every round that no limit and no fault cuts short serves every queue.
What the log tells is bound to the host: the rounds have the queues of the listed candidates, an
entry about an admission is an answer of the host, and a sweep that throws after its first entry
throws what a call of the host threw there.
-/

namespace AgentRoom.Scheduler

/-! ## The log -/

def Event.at : Event → Nat
  | .round n _ | .evaluated n _ | .failed n _ _ | .existing n _ _ | .admitted n _ _ => n

def evaluations (log : List Event) : List Candidate :=
  log.filterMap fun | .evaluated _ c => some c | _ => none

def admissions (log : List Event) : List String :=
  log.filterMap fun | .admitted _ _ runId => some runId | _ => none

/-- A candidate that a round leaves out: it was admitted, or had its Run. -/
def Left (round : Nat) (log : List Event) (c : Candidate) : Prop :=
  ∃ runId, .admitted round c runId ∈ log ∨ .existing round c runId ∈ log

/-- The queues after a round: in each what the round did not leave out. -/
structure Next (round : Nat) (log : List Event) (queues queues' : List (List Candidate)) :
    Prop where
  length : queues'.length = queues.length
  rest : ∀ (i : Nat) q q', queues[i]? = some q → queues'[i]? = some q' →
    ∃ gone, (q' ++ gone).Perm q ∧ ∀ c ∈ gone, Left round log c

theorem Left.mono {round : Nat} {log log' : List Event} {c : Candidate} (h : Left round log c)
    (hsub : ∀ e ∈ log, e ∈ log') : Left round log' c :=
  h.imp fun _ => Or.imp (hsub _) (hsub _)

theorem Next.mono {round : Nat} {log log' : List Event} {queues queues' : List (List Candidate)}
    (h : Next round log queues queues') (hsub : ∀ e ∈ log, e ∈ log') :
    Next round log' queues queues' where
  length := h.length
  rest i q q' hq hq' := (h.rest i q q' hq hq').imp fun _ h =>
    ⟨h.1, fun c hc => (h.2 c hc).mono hsub⟩

theorem Next.trans {round : Nat} {log : List Event}
    {queues queues' queues'' : List (List Candidate)}
    (h : Next round log queues queues') (h' : Next round log queues' queues'') :
    Next round log queues queues'' where
  length := h'.length.trans h.length
  rest i q q'' hq hq'' := by
    have hlt := h'.length ▸ (List.getElem?_eq_some_iff.mp hq'').1
    obtain ⟨gone, hperm, hgone⟩ := h.rest i q _ hq (List.getElem?_eq_getElem hlt)
    obtain ⟨gone', hperm', hgone'⟩ := h'.rest i _ q'' (List.getElem?_eq_getElem hlt) hq''
    refine ⟨gone' ++ gone, ?_, fun c hc => (List.mem_append.mp hc).elim (hgone' c) (hgone c)⟩
    rw [← List.append_assoc]
    exact (hperm'.append_right gone).trans hperm

section Facts

variable {σ Fault : Type} {l : Limits} {host : Host σ Fault}

/-- The answer of the host that an entry tells of. -/
def Host.Answered (h : Host σ Fault) (l : Limits) : Event → Prop
  | .round _ _ | .evaluated _ _ => True
  | .failed _ c code => ∃ w, h.admitScheduled w c (authority h l w c) = .error (.execution code)
  | .existing _ c runId => ∃ w w', h.admitScheduled w c (authority h l w c) =
      .ok (.existing runId, w')
  | .admitted _ c runId => ∃ w w', h.admitScheduled w c (authority h l w c) =
      .ok (.created runId, w')

/-- A call about a candidate that throws a fault, by the last entry before it. An execution error
of the admission is none. -/
inductive Host.Cuts (h : Host σ Fault) (l : Limits) (w : σ) (fault : Fault) : Event → Prop where
  | readiness {n : Nat} {c : Candidate} (throws : h.readiness w c = .error fault) :
      Cuts h l w fault (.evaluated n c)
  | project {n : Nat} {c : Candidate} {r : Readiness} (answers : h.readiness w c = .ok r)
      (throws : h.projectReadiness w c r = .error fault) : Cuts h l w fault (.evaluated n c)
  | admission {n : Nat} {c : Candidate}
      (throws : h.admitScheduled w c (authority h l w c) = .error (.other fault)) :
      Cuts h l w fault (.evaluated n c)
  | blocked {n : Nat} {c : Candidate} {code : String}
      (throws : h.projectReadiness w c (.blocked code) = .error fault) :
      Cuts h l w fault (.failed n c code)
  | reconcile {n : Nat} {c : Candidate} {runId : String}
      (throws : h.reconcileOne w c = .error fault) : Cuts h l w fault (.admitted n c runId)

/-- The call that follows the last entry throws a fault. -/
def Host.CutsAt (h : Host σ Fault) (l : Limits) (w : σ) (fault : Fault) (log : List Event) : Prop :=
  ∃ e, log.getLast? = some e ∧ h.Cuts l w fault e

theorem Host.CutsAt.append {w : σ} {fault : Fault} {new : List Event}
    (hcut : host.CutsAt l w fault new) (log : List Event) :
    host.CutsAt l w fault (log ++ new) := by
  obtain ⟨e, he, hcuts⟩ := hcut
  exact ⟨e, by rw [List.getLast?_append, he]; rfl, hcuts⟩

/-- What a part of a sweep adds to it. -/
structure Extends (s : Sweep σ) (new : List Event) (s' : Sweep σ) : Prop where
  log : s'.log = s.log ++ new
  round : s'.round = s.round
  evaluated : s'.evaluated = s.evaluated + (evaluations new).length
  admitted : s'.admitted = s.admitted ++ admissions new

theorem Extends.trans {s₁ s₂ s₃ : Sweep σ} {new new' : List Event} (h : Extends s₁ new s₂)
    (h' : Extends s₂ new' s₃) : Extends s₁ (new ++ new') s₃ where
  log := by rw [h'.log, h.log, List.append_assoc]
  round := h'.round.trans h.round
  evaluated := by
    rw [h'.evaluated, h.evaluated, evaluations, evaluations, evaluations, List.filterMap_append,
      List.length_append, Nat.add_assoc]
  admitted := by
    rw [h'.admitted, h.admitted, admissions, admissions, admissions, List.filterMap_append,
      List.append_assoc]

/-- The counters are at most their limits. -/
def Sweep.within (s : Sweep σ) (l : Limits) : Prop :=
  s.evaluated ≤ l.maxCandidateEvaluations ∧ s.admitted.length ≤ l.maxAdmissions

variable {s : Sweep σ} {new : List Event}

theorem Extends.below {s' : Sweep σ} (h : Extends s new s') (hbelow : s'.below l) : s.below l := by
  obtain ⟨hevaluated, hadmitted⟩ := hbelow
  rw [h.evaluated] at hevaluated
  rw [h.admitted, List.length_append] at hadmitted
  exact ⟨by omega, by omega⟩

/-! ## One queue -/

/-- An entry about a candidate of a list, made in a round. -/
def Event.about (round : Nat) (candidates : List Candidate) : Event → Prop
  | .round _ _ => False
  | .evaluated n c | .failed n c _ | .existing n c _ | .admitted n c _ =>
    n = round ∧ c ∈ candidates

/-- **What the visit of a queue does.** -/
structure Visited (h : Host σ Fault) (l : Limits) (todo kept : List Candidate) (s : Sweep σ)
    (new : List Event) (out : Visit σ Fault) : Prop where
  extends_ : Extends s new out.sweep
  within : s.within l → out.sweep.within l
  about : ∀ e ∈ new, e.about s.round todo
  answered : ∀ e ∈ new, h.Answered l e
  /-- At most one admission, and nothing after it. -/
  last : ∃ before, (∀ n c runId, Event.admitted n c runId ∉ before) ∧
    (new = before ∨ ∃ c runId, new = before ++ [.admitted s.round c runId])
  /-- What is not in the queue any more; an admitted candidate is not. -/
  gone : ∃ gone, (out.queue ++ gone).Perm (todo ++ kept) ∧
    (∀ n c runId, Event.admitted n c runId ∈ new → c ∈ gone) ∧
    ((∀ fault, out.ending ≠ .aborted fault) → ∀ c ∈ gone, Left s.round new c)
  served : out.ending = .done → out.sweep.below l → ∀ c ∈ todo, .evaluated s.round c ∈ new
  admitted : out.ending = .admitted → ∃ c ∈ todo, ∃ runId, .admitted s.round c runId ∈ new ∧
    s.evaluated < out.sweep.evaluated
  quiet : out.ending = .done → ∀ n c runId, Event.admitted n c runId ∉ new
  cut : ∀ fault, out.ending = .aborted fault → h.CutsAt l out.sweep.world fault new

theorem Event.about_mono {round : Nat} {cs cs' : List Candidate} (hsub : ∀ c ∈ cs, c ∈ cs')
    {e : Event} (h : e.about round cs) : e.about round cs' := by
  cases e with
  | round => exact h.elim
  | evaluated | failed | existing | admitted => exact ⟨h.1, hsub _ h.2⟩

/-- What one candidate adds before anything is decided about its admission. -/
structure Tried (h : Host σ Fault) (l : Limits) (identity : Candidate) (s : Sweep σ)
    (pre : List Event) (s₁ : Sweep σ) : Prop where
  below : s.below l
  extends_ : Extends s pre s₁
  one : (evaluations pre).length = 1
  none : ∀ n c runId, Event.admitted n c runId ∉ pre
  admissions : admissions pre = []
  about : ∀ e ∈ pre, e.about s.round [identity]
  answered : ∀ e ∈ pre, h.Answered l e
  first : .evaluated s.round identity ∈ pre

variable {identity : Candidate} {s₁ : Sweep σ} {pre : List Event}

theorem Tried.within (h : Tried host l identity s pre s₁) (hwithin : s.within l) : s₁.within l := by
  constructor
  · rw [h.extends_.evaluated, h.one]
    exact h.below.1
  · rw [h.extends_.admitted, h.admissions, List.append_nil]
    exact hwithin.2

theorem Tried.lt (h : Tried host l identity s pre s₁) : s.evaluated < s₁.evaluated := by
  rw [h.extends_.evaluated, h.one]
  exact Nat.lt_succ_self _

/-- A candidate goes back to the queue or out of it, and the visit goes on. -/
theorem Visited.cons {identity : Candidate} {todo kept kept' : List Candidate} {s s₁ : Sweep σ}
    {pre new : List Event} {out : Visit σ Fault} (hpre : Tried host l identity s pre s₁)
    (hkept : kept' = kept ++ [identity] ∨
      (kept' = kept ∧ ∃ runId, .existing s.round identity runId ∈ pre))
    (h : Visited host l todo kept' s₁ new out) :
    Visited host l (identity :: todo) kept s (pre ++ new) out where
  extends_ := hpre.extends_.trans h.extends_
  within hwithin := h.within (hpre.within hwithin)
  about e he := by
    obtain he | he := List.mem_append.mp he
    · exact Event.about_mono (by simp) (hpre.about e he)
    · exact hpre.extends_.round ▸ Event.about_mono (fun c => List.mem_cons_of_mem _) (h.about e he)
  answered e he := (List.mem_append.mp he).elim (hpre.answered e) (h.answered e)
  last := by
    obtain ⟨before, hbefore, hnew⟩ := h.last
    refine ⟨pre ++ before, fun n c runId hin => ?_, ?_⟩
    · obtain hin | hin := List.mem_append.mp hin
      · exact hpre.none n c runId hin
      · exact hbefore n c runId hin
    · obtain rfl | ⟨c, runId, rfl⟩ := hnew
      · exact .inl rfl
      · exact .inr ⟨c, runId, by rw [hpre.extends_.round, List.append_assoc]⟩
  gone := by
    obtain ⟨gone, hperm, hgone, hleft⟩ := h.gone
    have hnew : ∀ n c runId, Event.admitted n c runId ∈ pre ++ new → c ∈ gone :=
      fun n c runId hin => hgone n c runId
        ((List.mem_append.mp hin).resolve_left (hpre.none n c runId))
    have hlater : (∀ fault, out.ending ≠ .aborted fault) →
        ∀ c ∈ gone, Left s.round (pre ++ new) c := fun hending c hc =>
      (hpre.extends_.round ▸ hleft hending c hc).mono fun e => List.mem_append_right _
    -- the tried candidate is kept, or had its Run already
    obtain rfl | ⟨rfl, runId, hexisting⟩ := hkept
    · refine ⟨gone, hperm.trans ?_, hnew, hlater⟩
      rw [← List.append_assoc]
      exact List.perm_append_singleton _ _
    · refine ⟨identity :: gone, List.perm_middle.trans (hperm.cons _),
        fun n c runId hin => List.mem_cons_of_mem _ (hnew n c runId hin), fun hending c hc => ?_⟩
      obtain rfl | hc := List.mem_cons.mp hc
      · exact ⟨runId, .inr (List.mem_append_left _ hexisting)⟩
      · exact hlater hending c hc
  served hdone hbelow c hc := by
    obtain rfl | hc := List.mem_cons.mp hc
    · exact List.mem_append_left _ hpre.first
    · exact List.mem_append_right _ (hpre.extends_.round ▸ h.served hdone hbelow c hc)
  admitted hadmitted := by
    obtain ⟨c, hc, runId, hin, hlt⟩ := h.admitted hadmitted
    exact ⟨c, List.mem_cons_of_mem _ hc, runId,
      List.mem_append_right _ (hpre.extends_.round ▸ hin), Nat.lt_trans hpre.lt hlt⟩
  quiet hdone n c runId hin :=
    (List.mem_append.mp hin).elim (hpre.none n c runId) (h.quiet hdone n c runId)
  cut fault hending := (h.cut fault hending).append pre

variable {todo kept : List Candidate}

theorem Visited.aborts (hpre : Tried host l identity s pre s₁) {fault : Fault}
    (hcut : host.CutsAt l s₁.world fault pre) :
    Visited host l (identity :: todo) kept s pre ⟨todo ++ kept, .aborted fault, s₁⟩ where
  extends_ := hpre.extends_
  within := hpre.within
  about e he := Event.about_mono (by simp) (hpre.about e he)
  answered := hpre.answered
  last := ⟨pre, hpre.none, .inl rfl⟩
  gone := ⟨[identity], List.perm_append_singleton _ _,
    fun n c runId hin => absurd hin (hpre.none n c runId),
    fun hending => absurd rfl (hending fault)⟩
  served := nofun
  admitted := nofun
  quiet := nofun
  cut _ hending := Ending.aborted.inj hending ▸ hcut

/-- An admission ends the visit. -/
theorem Visited.admits {s₂ : Sweep σ} {runId : String} {ending : Ending Fault}
    (hpre : Tried host l identity s pre s₁) (hending : ending ≠ .done)
    (hadmits : Extends s₁ [.admitted s₁.round identity runId] s₂)
    (hanswered : host.Answered l (.admitted s.round identity runId))
    (hcut : ∀ fault, ending = .aborted fault → host.reconcileOne s₂.world identity = .error fault) :
    Visited host l (identity :: todo) kept s (pre ++ [.admitted s.round identity runId])
      ⟨todo ++ kept, ending, s₂⟩ where
  extends_ := hpre.extends_.round ▸ hpre.extends_.trans hadmits
  within hwithin := by
    obtain ⟨hevaluated, hadmitted⟩ := hpre.within hwithin
    refine ⟨by rw [hadmits.evaluated]; exact hevaluated, ?_⟩
    have hbelow := hpre.below.2
    have hbefore := hpre.extends_.admitted
    rw [hpre.admissions, List.append_nil] at hbefore
    rw [hadmits.admitted, hbefore]
    simpa [admissions] using hbelow
  about e he := by
    obtain he | he := List.mem_append.mp he
    · exact Event.about_mono (by simp) (hpre.about e he)
    · obtain rfl := List.mem_singleton.mp he
      exact ⟨rfl, List.mem_cons_self⟩
  answered e he := (List.mem_append.mp he).elim (hpre.answered e) fun he =>
    List.mem_singleton.mp he ▸ hanswered
  last := ⟨pre, hpre.none, .inr ⟨identity, runId, rfl⟩⟩
  gone := by
    refine ⟨[identity], List.perm_append_singleton _ _, fun n c runId' hin => ?_,
      fun _ c hc => ⟨runId, .inl (List.mem_singleton.mp hc ▸ by simp)⟩⟩
    obtain hin | hin := List.mem_append.mp hin
    · exact absurd hin (hpre.none n c runId')
    · cases List.mem_singleton.mp hin
      exact List.mem_cons_self
  served hdone := absurd hdone hending
  admitted _ := ⟨identity, List.mem_cons_self, runId, by simp, by
    rw [hadmits.evaluated]
    exact Nat.lt_of_lt_of_le hpre.lt (Nat.le_add_right _ _)⟩
  quiet hdone := absurd hdone hending
  cut fault haborted := ⟨_, List.getLast?_concat .., .reconcile (hcut fault haborted)⟩

theorem tried_evaluated (hbelow : s.below l) (identity : Candidate) (world : σ) :
    Tried host l identity s [.evaluated s.round identity]
      ⟨world, s.evaluated + 1, s.admitted, s.round, s.log ++ [.evaluated s.round identity]⟩ where
  below := hbelow
  extends_ := ⟨rfl, rfl, rfl, (List.append_nil _).symm⟩
  one := rfl
  none := by simp
  admissions := rfl
  about := by simp [Event.about]
  answered := by simp [Host.Answered]
  first := List.mem_cons_self

/-- A second entry that tells of the answer to the admission. -/
theorem Tried.answers {world : σ} (h : Tried host l identity s [.evaluated s.round identity]
      ⟨world, s.evaluated + 1, s.admitted, s.round, s.log ++ [.evaluated s.round identity]⟩)
    {e : Event} (he : (∃ code, e = .failed s.round identity code) ∨
      ∃ runId, e = .existing s.round identity runId) (hanswered : host.Answered l e) (world' : σ) :
    Tried host l identity s [.evaluated s.round identity, e]
      ⟨world', s.evaluated + 1, s.admitted, s.round,
        s.log ++ [.evaluated s.round identity] ++ [e]⟩ := by
  obtain ⟨_, rfl⟩ | ⟨_, rfl⟩ := he <;>
  exact
    { below := h.below
      extends_ := ⟨by simp, rfl, rfl, (List.append_nil _).symm⟩
      one := rfl
      none := by simp
      admissions := rfl
      about := by simp [Event.about]
      answered := by simpa [Host.Answered] using hanswered
      first := List.mem_cons_self }

theorem Extends.refl (s : Sweep σ) : Extends s [] s :=
  ⟨(List.append_nil _).symm, rfl, rfl, (List.append_nil _).symm⟩

theorem Visited.stops (hstops : todo = [] ∨ ¬ s.below l) :
    Visited host l todo kept s [] (⟨todo ++ kept, .done, s⟩ : Visit σ Fault) where
  extends_ := .refl s
  within h := h
  about := nofun
  answered := nofun
  last := ⟨[], by simp, .inl rfl⟩
  gone := ⟨[], by simp, nofun, fun _ => nofun⟩
  served _ hbelow c hc := by
    obtain rfl | hstops := hstops
    · cases hc
    · exact absurd hbelow hstops
  admitted := nofun
  quiet _ := nofun
  cut := nofun

/-- **The visit of a queue**, by induction on the candidates that are ahead. -/
theorem visit_visited (h : Host σ Fault) (l : Limits) (todo kept : List Candidate)
    (s : Sweep σ) : ∃ new, Visited h l todo kept s new (visit h l todo kept s) := by
  induction todo generalizing kept s with
  | nil => exact ⟨[], .stops (.inl rfl)⟩
  | cons identity todo ih =>
    rw [visit]
    by_cases hbelow : s.below l
    · rw [if_pos hbelow]
      dsimp only
      have htried (world : σ) : Tried h l identity s [.evaluated s.round identity] _ :=
        tried_evaluated hbelow identity world
      cases hready : h.readiness s.world identity with
      | error fault => exact ⟨_, .aborts (htried s.world) ⟨_, rfl, .readiness hready⟩⟩
      | ok readiness =>
        simp only
        cases hproject : h.projectReadiness s.world identity readiness with
        | error fault =>
          exact ⟨_, .aborts (htried s.world) ⟨_, rfl, .project hready hproject⟩⟩
        | ok world =>
          cases readiness with
          | blocked code =>
            obtain ⟨new, hnew⟩ := ih (kept ++ [identity]) _
            exact ⟨_, .cons (htried world) (.inl rfl) hnew⟩
          | ready =>
            simp only
            rcases hadmit : h.admitScheduled world identity (authority h l world identity) with
              (code | fault) | ⟨runId | runId, world'⟩
            · -- an execution error: the candidate goes back, and the visit goes on
              simp only
              have hfailed := (htried world).answers (.inl ⟨code, rfl⟩) ⟨world, hadmit⟩
              cases hblocked : h.projectReadiness world identity (.blocked code) with
              | error fault =>
                exact ⟨_, .aborts (hfailed world) ⟨_, rfl, .blocked hblocked⟩⟩
              | ok world' =>
                obtain ⟨new, hnew⟩ := ih (kept ++ [identity]) _
                exact ⟨_, .cons (hfailed world') (.inl rfl) hnew⟩
            · exact ⟨_, .aborts (htried world) ⟨_, rfl, .admission hadmit⟩⟩
            · have hexisting :=
                (htried world).answers (.inr ⟨runId, rfl⟩) ⟨world, world', hadmit⟩ world'
              obtain ⟨new, hnew⟩ := ih kept _
              exact ⟨_, .cons hexisting (.inr ⟨rfl, runId, by simp⟩) hnew⟩
            · simp only
              have hadmits : ∀ world₂ : σ, Extends
                  ⟨world', s.evaluated + 1, s.admitted, s.round,
                    s.log ++ [.evaluated s.round identity]⟩
                  [.admitted s.round identity runId]
                  ⟨world₂, s.evaluated + 1, s.admitted ++ [runId], s.round,
                    s.log ++ [.evaluated s.round identity] ++
                      [.admitted s.round identity runId]⟩ :=
                fun world₂ => ⟨rfl, rfl, rfl, rfl⟩
              cases hone : h.reconcileOne world' identity with
              | error fault =>
                refine ⟨_, .admits (htried world') nofun (hadmits world') ⟨_, _, hadmit⟩ ?_⟩
                rintro _ ⟨⟩
                exact hone
              | ok world₂ =>
                exact ⟨_, .admits (htried world') nofun (hadmits world₂) ⟨_, _, hadmit⟩ nofun⟩
    · rw [if_neg hbelow]
      exact ⟨[], .stops (.inr hbelow)⟩

/-! ### The rounds -/

/-- The invariant of a sweep, between two visits; `pending` are the queues that the round has not
visited yet. -/
structure Inv (l : Limits) (queues : List (List Candidate)) (pending : List Nat) (s : Sweep σ) :
    Prop where
  apart : Apart queues
  within : s.within l
  evaluated : s.evaluated = (evaluations s.log).length
  admitted : s.admitted = admissions s.log
  rounds : ∀ e ∈ s.log, e.at ≤ s.round
  gone : ∀ n c runId, .admitted n c runId ∈ s.log → ∀ q ∈ queues, c ∉ q
  once : s.log.Pairwise fun e e' => ∀ n n' c runId, e = .admitted n c runId →
    e' ≠ .evaluated n' c
  perRound : s.log.Pairwise fun e e' => ∀ n c c' runId runId', e = .admitted n c runId →
    e' = .admitted n c' runId' → c.planId ≠ c'.planId
  fresh : ∀ i ∈ pending, ∀ q, queues[i]? = some q → ∀ c ∈ q, ∀ c' runId,
    .admitted s.round c' runId ∈ s.log → c'.planId ≠ c.planId

theorem Apart.set {queues : List (List Candidate)} (h : Apart queues) {i : Nat}
    {q q' : List Candidate} (hq : queues[i]? = some q) (hnodup : q'.Nodup)
    (hsub : ∀ c ∈ q', c ∈ q) : Apart (queues.set i q') := by
  have hlt := (List.getElem?_eq_some_iff.mp hq).1
  have hold : ∀ (j : Nat) p, (queues.set i q')[j]? = some p →
      ∃ p', queues[j]? = some p' ∧ ∀ c ∈ p, c ∈ p' := by
    intro j p hp
    by_cases hij : i = j
    · subst hij
      rw [List.getElem?_set_self hlt] at hp
      exact ⟨q, hq, Option.some.inj hp ▸ hsub⟩
    · rw [List.getElem?_set_ne hij] at hp
      exact ⟨p, hp, fun _ h => h⟩
  constructor
  · intro p hp
    obtain hp | rfl := List.mem_or_eq_of_mem_set hp
    · exact h.nodup p hp
    · exact hnodup
  · intro j k p p' hj hk hne c hc c' hc'
    obtain ⟨r, hr, hsub⟩ := hold j p hj
    obtain ⟨r', hr', hsub'⟩ := hold k p' hk
    exact h.plans j k r r' hr hr' hne c (hsub c hc) c' (hsub' c' hc')

variable {out : Visit σ Fault}

theorem Visited.pairwise (h : Visited host l todo kept s new out) {R : Event → Event → Prop}
    (hR : ∀ e e', (∀ n c runId, e ≠ .admitted n c runId) → R e e') : new.Pairwise R := by
  obtain ⟨before, hbefore, hnew⟩ := h.last
  have hquiet : ∀ e ∈ before, ∀ e', R e e' := fun e he e' => hR e e' fun n c runId heq =>
    hbefore n c runId (heq ▸ he)
  have hpairwise : before.Pairwise R :=
    List.pairwise_of_forall_mem_list fun e he e' _ => hquiet e he e'
  obtain rfl | ⟨c, runId, rfl⟩ := hnew
  · exact hpairwise
  · exact List.pairwise_append.mpr ⟨hpairwise, List.pairwise_singleton _ _,
      fun e he e' _ => hquiet e he e'⟩

variable {queues : List (List Candidate)} {pending : List Nat}

/-- **The step lemma**: the visit of a queue keeps the invariant. -/
theorem Inv.visit {i : Nat} (h : Inv l queues (i :: pending) s) (hnew : i ∉ pending)
    {q : List Candidate} (hq : queues[i]? = some q) (hvisit : Visited host l q [] s new out) :
    Inv l (queues.set i out.queue) pending out.sweep := by
  have hext := hvisit.extends_
  obtain ⟨gone, hperm, hgone, -⟩ := hvisit.gone
  rw [List.append_nil] at hperm
  have hnodup : (out.queue ++ gone).Nodup :=
    hperm.nodup_iff.mpr (h.apart.nodup q (List.mem_of_getElem? hq))
  have hsub : ∀ c ∈ out.queue, c ∈ q := fun c hc => hperm.mem_iff.mp (List.mem_append_left _ hc)
  have hgoneq : ∀ c ∈ gone, c ∈ q := fun c hc => hperm.mem_iff.mp (List.mem_append_right _ hc)
  -- what left the queue is not in it: a queue holds no candidate twice
  have hgoneout : ∀ c ∈ gone, c ∉ out.queue := fun c hc hin =>
    (List.nodup_append.mp hnodup).2.2 c hin c hc rfl
  -- a queue is the visited one, or as it was
  have hset : ∀ p ∈ queues.set i out.queue, p = out.queue ∨ ∃ j, j ≠ i ∧ queues[j]? = some p := by
    intro p hp
    obtain ⟨j, hj⟩ := List.mem_iff_getElem?.mp hp
    by_cases hij : i = j
    · subst hij
      rw [List.getElem?_set_self (List.getElem?_eq_some_iff.mp hq).1] at hj
      exact .inl (Option.some.inj hj).symm
    · rw [List.getElem?_set_ne hij] at hj
      exact .inr ⟨j, Ne.symm hij, hj⟩
  -- two queues are of two plans
  have hplan : ∀ j p, j ≠ i → queues[j]? = some p → ∀ c ∈ p, ∀ c' ∈ q, c'.planId ≠ c.planId :=
    fun j p hne hp c hc c' hc' => h.apart.plans i j q p hq hp (Ne.symm hne) c' hc' c hc
  constructor
  · exact h.apart.set hq (hnodup.sublist (List.sublist_append_left _ _)) hsub
  · exact hvisit.within h.within
  · rw [hext.evaluated, hext.log, h.evaluated, evaluations, evaluations, evaluations,
      List.filterMap_append, List.length_append]
  · rw [hext.admitted, hext.log, h.admitted, admissions, admissions, admissions,
      List.filterMap_append]
  · intro e he
    rw [hext.round]
    obtain he | he := List.mem_append.mp (hext.log ▸ he)
    · exact h.rounds e he
    · have habout := hvisit.about e he
      cases e with
      | round => exact habout.elim
      | evaluated | failed | existing | admitted => exact Nat.le_of_eq habout.1
  · -- whether it was admitted before, or by this visit
    intro n c runId he p hp hin
    obtain he | he := List.mem_append.mp (hext.log ▸ he)
    · obtain rfl | ⟨j, -, hj⟩ := hset p hp
      · exact h.gone n c runId he q (List.mem_of_getElem? hq) (hsub c hin)
      · exact h.gone n c runId he p (List.mem_of_getElem? hj) hin
    · have hc := hgone n c runId he
      obtain rfl | ⟨j, hne, hj⟩ := hset p hp
      · exact hgoneout c hc hin
      · exact hplan j p hne hj c hin c (hgoneq c hc) rfl
  · rw [hext.log]
    refine List.pairwise_append.mpr ⟨h.once, hvisit.pairwise fun e e' hquiet n n' c runId he =>
      absurd he (hquiet n c runId), fun e he e' he' n n' c runId heq heq' => ?_⟩
    subst heq heq'
    exact h.gone n c runId he q (List.mem_of_getElem? hq) (hvisit.about _ he').2
  · rw [hext.log]
    refine List.pairwise_append.mpr ⟨h.perRound, hvisit.pairwise
      fun e e' hquiet n c c' runId runId' he => absurd he (hquiet n c runId),
      fun e he e' he' n c c' runId runId' heq heq' => ?_⟩
    subst heq heq'
    obtain ⟨rfl, hc'⟩ := hvisit.about _ he'
    exact h.fresh i List.mem_cons_self q hq c' hc' c runId he
  · intro j hj p hp c hc c' runId he
    have hne : i ≠ j := fun heq => hnew (heq ▸ hj)
    rw [List.getElem?_set_ne hne] at hp
    rw [hext.round] at he
    obtain he | he := List.mem_append.mp (hext.log ▸ he)
    · exact h.fresh j (List.mem_cons_of_mem _ hj) p hp c hc c' runId he
    · exact hplan j p (Ne.symm hne) hp c hc c' (hvisit.about _ he).2

/-- Every candidate of the queue was evaluated in the round, or one of them was admitted. -/
def Served (round : Nat) (log : List Event) (q : List Candidate) : Prop :=
  (∀ c ∈ q, .evaluated round c ∈ log) ∨ ∃ c ∈ q, ∃ runId, .admitted round c runId ∈ log

theorem Served.mono {round : Nat} {log log' : List Event} {q : List Candidate}
    (h : Served round log q) (hsub : ∀ e ∈ log, e ∈ log') : Served round log' q := by
  obtain hall | ⟨c, hc, runId, hin⟩ := h
  · exact .inl fun c hc => hsub _ (hall c hc)
  · exact .inr ⟨c, hc, runId, hsub _ hin⟩

/-- **What the visits of a round do.** -/
structure Visits (h : Host σ Fault) (l : Limits) (queues : List (List Candidate))
    (pending : List Nat) (progressed : Bool) (s : Sweep σ) (new : List Event)
    (out : Round σ Fault) : Prop where
  inv : Inv l out.queues [] out.sweep
  extends_ : Extends s new out.sweep
  about : ∀ e ∈ new, ∃ i ∈ pending, ∃ q, queues[i]? = some q ∧ e.about s.round q
  answered : ∀ e ∈ new, h.Answered l e
  served : out.fault = none → out.sweep.below l → ∀ i ∈ pending, ∀ q, queues[i]? = some q →
    Served s.round new q
  next : out.fault = none → Next s.round new queues out.queues
  stays : progressed = true → out.progressed = true
  progressed : out.progressed = true → progressed = true ∨ s.evaluated < out.sweep.evaluated
  quiet : out.fault = none → out.progressed = false → ∀ n c runId, Event.admitted n c runId ∉ new
  cut : ∀ fault, out.fault = some fault → h.CutsAt l out.sweep.world fault new

theorem Inv.done (h : Inv l queues pending s) : Inv l queues [] s :=
  { h with fresh := nofun }

theorem Next.refl (round : Nat) (log : List Event) (queues : List (List Candidate)) :
    Next round log queues queues where
  length := rfl
  rest _ q q' hq hq' := ⟨[], by rw [List.append_nil, Option.mem_unique hq hq'], nofun⟩

/-- What a visit that is not cut short leaves of the queues. -/
theorem Visited.next (h : Visited host l todo [] s new out) {i : Nat} (hq : queues[i]? = some todo)
    (hending : ∀ fault, out.ending ≠ .aborted fault) :
    Next s.round new queues (queues.set i out.queue) where
  length := List.length_set
  rest j q q' hj hj' := by
    by_cases hij : i = j
    · subst hij
      rw [List.getElem?_set_self (List.getElem?_eq_some_iff.mp hq).1] at hj'
      obtain rfl := Option.some.inj hj'
      obtain rfl := Option.mem_unique hq hj
      obtain ⟨gone, hperm, -, hleft⟩ := h.gone
      exact ⟨gone, by simpa using hperm, hleft hending⟩
    · rw [List.getElem?_set_ne hij] at hj'
      exact (Next.refl _ _ _).rest j q q' hj hj'

theorem visitAll_visits (h : Host σ Fault) (l : Limits) (pending : List Nat)
    (queues : List (List Candidate)) (progressed : Bool) (s : Sweep σ)
    (hinv : Inv l queues pending s) (hnodup : pending.Nodup)
    (hqueues : ∀ i ∈ pending, ∃ q, queues[i]? = some q) :
    ∃ new, Visits h l queues pending progressed s new
      (visitAll h l pending queues progressed s) := by
  induction pending generalizing queues progressed s with
  | nil =>
    exact ⟨[], hinv, .refl s, by simp, by simp, by simp, fun _ => .refl .., id, .inl, by simp,
      by simp [visitAll]⟩
  | cons i pending ih =>
    obtain ⟨hi, hnodup⟩ := List.nodup_cons.mp hnodup
    obtain ⟨q, hq⟩ := hqueues i List.mem_cons_self
    obtain ⟨new, hvisit⟩ := visit_visited h l (queues.getD i []) [] s
    rw [visitAll]
    rw [show queues.getD i [] = q by simp [hq]] at hvisit ⊢
    generalize visit h l q [] s = out at hvisit ⊢
    have hext := hvisit.extends_
    have hnext := hinv.visit hi hq hvisit
    have hother : ∀ j ∈ pending, (queues.set i out.queue)[j]? = queues[j]? := fun j hj =>
      List.getElem?_set_ne (by
        rintro rfl
        exact hi hj)
    have hqueues' : ∀ j ∈ pending, ∃ q, (queues.set i out.queue)[j]? = some q := fun j hj => by
      rw [hother j hj]
      exact hqueues j (List.mem_cons_of_mem _ hj)
    have habout : ∀ e ∈ new, ∃ j ∈ i :: pending, ∃ q, queues[j]? = some q ∧ e.about s.round q :=
      fun e he => ⟨i, List.mem_cons_self, q, hq, hvisit.about e he⟩
    -- the visits of the other queues, after this one
    have hrest : ∀ progressed', (out.ending = .done ∨ out.ending = .admitted) →
        (progressed' = true → progressed = true ∨ s.evaluated < out.sweep.evaluated) →
        (progressed = true → progressed' = true) → (progressed' = false → out.ending = .done) →
        ∃ new', Visits h l queues (i :: pending) progressed s new'
          (visitAll h l pending (queues.set i out.queue) progressed' out.sweep) := by
      intro progressed' hending hprogressed hstays hquiet
      obtain ⟨new', hvisits⟩ := ih _ progressed' out.sweep hnext hnodup hqueues'
      refine ⟨new ++ new', hvisits.inv, hext.trans hvisits.extends_, fun e he => ?_,
        fun e he => (List.mem_append.mp he).elim (hvisit.answered e) (hvisits.answered e),
        fun hfault hbelow j hj p hp => ?_, fun hfault => ?_,
        fun hp => hvisits.stays (hstays hp), fun hp => ?_, fun hfault hp n c runId hin => ?_,
        fun fault hfault => (hvisits.cut fault hfault).append new⟩
      · obtain he | he := List.mem_append.mp he
        · exact habout e he
        · obtain ⟨j, hj, p, hp, hin⟩ := hvisits.about e he
          exact ⟨j, List.mem_cons_of_mem _ hj, p, (hother j hj).symm.trans hp, hext.round ▸ hin⟩
      · obtain rfl | hj := List.mem_cons.mp hj
        · obtain rfl := Option.mem_unique hq hp
          refine Served.mono ?_ fun e he => List.mem_append_left new' he
          obtain hending | hending := hending
          · exact .inl (hvisit.served hending (hvisits.extends_.below hbelow))
          · obtain ⟨c, hc, runId, hin, -⟩ := hvisit.admitted hending
            exact .inr ⟨c, hc, runId, hin⟩
        · refine Served.mono ?_ fun e he => List.mem_append_right new he
          exact hext.round ▸ hvisits.served hfault hbelow j hj p ((hother j hj).trans hp)
      · have hending' : ∀ fault, out.ending ≠ .aborted fault := by
          rintro fault heq
          rw [heq] at hending
          obtain hending | hending := hending <;> cases hending
        have hlater := hext.round ▸ hvisits.next hfault
        exact ((hvisit.next hq hending').mono fun e => List.mem_append_left _).trans
          (hlater.mono fun e => List.mem_append_right _)
      · have hle : out.sweep.evaluated ≤ _ :=
          (hvisits.extends_.evaluated ▸ Nat.le_add_right _ _)
        obtain hp | hlt := hvisits.progressed hp
        · exact (hprogressed hp).imp_right fun hlt => Nat.lt_of_lt_of_le hlt hle
        · refine .inr (Nat.lt_of_le_of_lt ?_ hlt)
          rw [hext.evaluated]
          exact Nat.le_add_right _ _
      · obtain hin | hin := List.mem_append.mp hin
        · refine hvisit.quiet (hquiet ?_) n c runId hin
          rw [Bool.eq_false_iff]
          intro heq
          rw [hvisits.stays heq] at hp
          cases hp
        · exact hvisits.quiet hfault hp n c runId hin
    cases hending : out.ending with
    | done => exact hrest progressed (.inl hending) .inl id fun _ => hending
    | admitted =>
      obtain ⟨-, -, -, -, hlt⟩ := hvisit.admitted hending
      exact hrest true (.inr hending) (fun _ => .inr hlt) (fun _ => rfl) (by simp)
    | aborted fault =>
      refine ⟨new, hnext.done, hext, habout, hvisit.answered, by simp, by simp, id, .inl, by simp,
        ?_⟩
      rintro _ ⟨⟩
      exact hvisit.cut fault hending

/-! ### The log of the rounds -/

/-- **What the log tells** of the queues that a sweep starts with. -/
structure Told (h : Host σ Fault) (l : Limits) (first : List (List Candidate)) (log : List Event) :
    Prop where
  /-- What it says of an admission is what the host answered. -/
  answered : ∀ e ∈ log, h.Answered l e
  /-- Each entry is about a candidate in a queue of its round. -/
  about : ∀ e ∈ log, (∃ n qs, e = .round n qs) ∨
    ∃ n qs, .round n qs ∈ log ∧ ∃ q ∈ qs, e.about n q
  /-- The first round has the queues of the start, each other what the one before it left. -/
  rounds : ∀ n qs, .round n qs ∈ log → (n = 1 ∧ qs = first) ∨
    ∃ m qs', n = m + 1 ∧ .round m qs' ∈ log ∧ Next m log qs' qs

/-- The queues as they are after so many rounds. -/
def Now (first : List (List Candidate)) (log : List Event) (round : Nat)
    (queues : List (List Candidate)) : Prop :=
  (round = 0 ∧ queues = first) ∨ ∃ qs, .round round qs ∈ log ∧ Next round log qs queues

variable {first : List (List Candidate)} {log : List Event} {m : Nat}

/-- A round that follows. -/
theorem Told.append (ht : Told host l first log) (hnow : Now first log m queues)
    (habout : ∀ e ∈ new, ∃ q ∈ queues, e.about (m + 1) q)
    (hanswered : ∀ e ∈ new, host.Answered l e) :
    Told host l first (log ++ [.round (m + 1) queues] ++ new) where
  answered e he := by
    obtain he | he := List.mem_append.mp he
    · obtain he | he := List.mem_append.mp he
      · exact ht.answered e he
      · rw [List.mem_singleton.mp he]
        trivial
    · exact hanswered e he
  about e he := by
    obtain he | he := List.mem_append.mp he
    · obtain he | he := List.mem_append.mp he
      · refine (ht.about e he).imp_right ?_
        rintro ⟨n, qs, hround, hq⟩
        exact ⟨n, qs, List.mem_append_left _ (List.mem_append_left _ hround), hq⟩
      · exact .inl ⟨_, _, List.mem_singleton.mp he⟩
    · exact .inr ⟨_, queues, by simp, habout e he⟩
  rounds n qs hin := by
    have hsub : ∀ e ∈ log, e ∈ log ++ [.round (m + 1) queues] ++ new := fun e he =>
      List.mem_append_left _ (List.mem_append_left _ he)
    obtain hin | hin := List.mem_append.mp hin
    · obtain hin | hin := List.mem_append.mp hin
      · refine (ht.rounds n qs hin).imp_right ?_
        rintro ⟨m', qs', hn, hm, hnext⟩
        exact ⟨m', qs', hn, hsub _ hm, hnext.mono hsub⟩
      · obtain ⟨rfl, rfl⟩ := Event.round.inj (List.mem_singleton.mp hin)
        obtain ⟨rfl, rfl⟩ | ⟨qs', hm, hnext⟩ := hnow
        · exact .inl ⟨rfl, rfl⟩
        · exact .inr ⟨m, qs', rfl, hsub _ hm, hnext.mono hsub⟩
    · obtain ⟨_, _, habsurd⟩ := habout _ hin
      exact habsurd.elim

/-- What a sweep has done so far; `fault` is what ended it, if something did. -/
structure Swept (h : Host σ Fault) (l : Limits) (first : List (List Candidate))
    (fault : Option Fault) (s : Sweep σ) : Prop where
  within : s.within l
  evaluated : s.evaluated = (evaluations s.log).length
  admitted : s.admitted = admissions s.log
  rounds : ∀ e ∈ s.log, e.at ≤ s.round
  once : s.log.Pairwise fun e e' => ∀ n n' c runId, e = .admitted n c runId →
    e' ≠ .evaluated n' c
  perRound : s.log.Pairwise fun e e' => ∀ n c c' runId runId', e = .admitted n c runId →
    e' = .admitted n c' runId' → c.planId ≠ c'.planId
  told : Told h l first s.log
  served : ∀ n qs, .round n qs ∈ s.log →
    (n < s.round ∨ ((∀ f, fault = some f → ¬ h.CutsAt l s.world f s.log) ∧ s.below l)) →
    ∀ q ∈ qs, Served n s.log q
  cut : ∀ f, fault = some f → h.reconcile s.world = .error f ∨ h.CutsAt l s.world f s.log

theorem Inv.swept (h : Inv l queues pending s) {fault : Option Fault}
    (htold : Told host l first s.log)
    (hserved : ∀ n qs, .round n qs ∈ s.log →
      (n < s.round ∨ ((∀ f, fault = some f → ¬ host.CutsAt l s.world f s.log) ∧ s.below l)) →
      ∀ q ∈ qs, Served n s.log q)
    (hcut : ∀ f, fault = some f → host.reconcile s.world = .error f ∨
      host.CutsAt l s.world f s.log) : Swept host l first fault s :=
  ⟨h.within, h.evaluated, h.admitted, h.rounds, h.once, h.perRound, htold, hserved, hcut⟩

/-- A round begins. -/
theorem Inv.begins (h : Inv l queues [] s) (world : σ) (pending : List Nat) :
    Inv l queues pending ⟨world, s.evaluated, s.admitted, s.round + 1,
      s.log ++ [.round (s.round + 1) queues]⟩ where
  apart := h.apart
  within := h.within
  evaluated := by
    simp [h.evaluated, evaluations]
  admitted := by
    simp [h.admitted, admissions]
  rounds e he := by
    obtain he | rfl := List.mem_append.mp he |>.imp_right List.mem_singleton.mp
    · exact Nat.le_succ_of_le (h.rounds e he)
    · exact Nat.le_refl _
  gone n c runId he := by
    obtain he | he := List.mem_append.mp he
    · exact h.gone n c runId he
    · cases List.mem_singleton.mp he
  once := by
    refine List.pairwise_append.mpr ⟨h.once, List.pairwise_singleton _ _, fun e _ e' he' => ?_⟩
    obtain rfl := List.mem_singleton.mp he'
    nofun
  perRound := by
    refine List.pairwise_append.mpr ⟨h.perRound, List.pairwise_singleton _ _,
      fun e _ e' he' => ?_⟩
    obtain rfl := List.mem_singleton.mp he'
    nofun
  fresh i _ q _ c _ c' runId he := by
    obtain he | he := List.mem_append.mp he
    · exact absurd (h.rounds _ he) (Nat.not_succ_le_self _)
    · cases List.mem_singleton.mp he

/-- The last round admitted nothing, or left nothing. -/
def Exhausted (s : Sweep σ) : Prop :=
  ∀ qs, .round s.round qs ∈ s.log → (∀ c runId, .admitted s.round c runId ∉ s.log) ∨
    ∀ q ∈ qs, ∀ c ∈ q, Left s.round s.log c

structure Went (h : Host σ Fault) (l : Limits) (first queues : List (List Candidate)) (s : Sweep σ)
    (out : Round σ Fault) : Prop where
  inv : Inv l out.queues [] out.sweep
  swept : Swept h l first out.fault out.sweep
  now : out.fault = none → Now first out.sweep.log out.sweep.round out.queues
  progressed : out.progressed = true → s.evaluated < out.sweep.evaluated
  begun : .round (s.round + 1) queues ∈ out.sweep.log
  kept : ∀ e ∈ s.log, e ∈ out.sweep.log
  exhausted : out.fault = none →
    (out.progressed = false ∨ out.queues.all (·.isEmpty) = true) → Exhausted out.sweep

variable {h : Host σ Fault}

/-- One round, from its beginning. -/
theorem round_went (hinv : Inv l queues [] s) (htold : Told h l first s.log)
    (hnow : Now first s.log s.round queues)
    (hserved : ∀ n qs, .round n qs ∈ s.log → ∀ q ∈ qs, Served n s.log q) (world : σ)
    {out : Round σ Fault} (hout : visitAll h l (orderQueues (h.cursor world) queues) queues false
      ⟨world, s.evaluated, s.admitted, s.round + 1, s.log ++ [.round (s.round + 1) queues]⟩ = out) :
    Went h l first queues s out := by
  obtain ⟨new, hvisits⟩ := visitAll_visits h l (orderQueues (h.cursor world) queues) queues false _
    (hinv.begins world (orderQueues (h.cursor world) queues)) (nodup_orderQueues _ _)
    fun i hi => ((mem_orderQueues _ _ i).mp hi).imp fun _ h => h.1
  rw [hout] at hvisits
  have hext := hvisits.extends_
  have hlog : out.sweep.log = s.log ++ [.round (s.round + 1) queues] ++ new := hext.log
  have hround : out.sweep.round = s.round + 1 := hext.round
  have habout : ∀ e ∈ new, ∃ q ∈ queues, e.about (s.round + 1) q := fun e he => by
    obtain ⟨i, -, q, hq, hin⟩ := hvisits.about e he
    exact ⟨q, List.mem_of_getElem? hq, hin⟩
  have hsub : ∀ e ∈ new, e ∈ out.sweep.log := fun e he => hlog ▸ List.mem_append_right _ he
  have hbegun : .round (s.round + 1) queues ∈ out.sweep.log := by simp [hlog]
  -- the entries of this round are the new ones
  have hlast : ∀ e ∈ out.sweep.log, e.at = s.round + 1 →
      e = .round (s.round + 1) queues ∨ e ∈ new := fun e he heq => by
    rw [hlog] at he
    obtain he | he := List.mem_append.mp he
    · obtain he | he := List.mem_append.mp he
      · have := hinv.rounds e he
        omega
      · exact .inl (List.mem_singleton.mp he)
    · exact .inr he
  have hnone : ∀ n qs, Event.round n qs ∉ new := fun n qs hin =>
    (habout _ hin).elim fun _ h => h.2
  refine ⟨hvisits.inv, hvisits.inv.swept (hlog ▸ htold.append hnow habout hvisits.answered)
    (fun n qs hin hwhole q hq => ?_) fun f hf => ?_, fun hfault => ?_,
    fun hp => (hvisits.progressed hp).resolve_left nofun, hbegun,
    fun e he => hlog ▸ List.mem_append_left _ (List.mem_append_left _ he),
    fun hfault hstops qs hin => ?_⟩
  · rw [hlog] at hin
    obtain hin | hin := List.mem_append.mp hin
    · obtain hin | hin := List.mem_append.mp hin
      · exact (hserved n qs hin q hq).mono fun e he =>
          hlog ▸ List.mem_append_left _ (List.mem_append_left _ he)
      · -- the round that ends here
        obtain ⟨rfl, rfl⟩ := Event.round.inj (List.mem_singleton.mp hin)
        rw [hround] at hwhole
        obtain ⟨hcut, hbelow⟩ := hwhole.resolve_left (Nat.lt_irrefl _)
        have hfault : out.fault = none := by
          cases hfault : out.fault with
          | none => rfl
          | some f => exact absurd (hlog ▸ (hvisits.cut f hfault).append _) (hcut f hfault)
        by_cases hempty : q = []
        · subst hempty
          exact .inl nofun
        · obtain ⟨i, hi⟩ := List.mem_iff_getElem?.mp hq
          have hpending := (mem_orderQueues (h.cursor world) qs i).mpr ⟨q, hi, hempty⟩
          exact (hvisits.served hfault hbelow i hpending q hi).mono hsub
    · exact absurd hin (hnone n qs)
  · exact .inr (hlog ▸ (hvisits.cut f hf).append _)
  · exact .inr ⟨queues, hround ▸ hbegun, hround ▸ (hvisits.next hfault).mono hsub⟩
  · rw [hround] at hin ⊢
    obtain ⟨-, rfl⟩ := Event.round.inj ((hlast _ hin rfl).resolve_right (hnone _ _))
    refine hstops.imp (fun hp c runId hc => ?_) fun hall q hq c hc => ?_
    · obtain hc | hc := hlast _ hc rfl
      · cases hc
      · exact hvisits.quiet hfault hp _ c runId hc
    · have hnext := hvisits.next hfault
      obtain ⟨i, hi⟩ := List.mem_iff_getElem?.mp hq
      have hlt := hnext.length.symm ▸ (List.getElem?_eq_some_iff.mp hi).1
      have hi' := List.getElem?_eq_getElem hlt
      obtain ⟨gone, hperm, hgone⟩ := hnext.rest i q _ hi hi'
      have hempty : out.queues[i] = [] := by
        simpa using List.all_eq_true.mp hall _ (List.mem_of_getElem? hi')
      rw [hempty, List.nil_append] at hperm
      exact (hgone c (hperm.mem_iff.mpr hc)).mono hsub

structure Ran (h : Host σ Fault) (l : Limits) (first queues : List (List Candidate)) (s : Sweep σ)
    (fault : Option Fault) (s' : Sweep σ) : Prop where
  swept : Swept h l first fault s'
  kept : ∀ e ∈ s.log, e ∈ s'.log
  begun : s.below l → (∃ f, h.reconcile s.world = .error f ∧ fault = some f) ∨
    .round (s.round + 1) queues ∈ s'.log
  exhausted : fault = none → s'.below l → Exhausted s'

/-- No further round begins once a limit is reached. -/
theorem rounds_stop (hswept : Swept h l first none s) (hstop : ¬ s.below l) (budget : Nat) :
    ∃ fault s', (∀ fuel, budget < fuel → rounds h l fuel queues s = some (fault, s')) ∧
      Ran h l first queues s fault s' := by
  refine ⟨none, s, fun fuel hfuel => ?_, hswept, fun _ => id, fun h => absurd h hstop,
    fun _ h => absurd h hstop⟩
  obtain ⟨fuel, rfl⟩ := Nat.exists_eq_add_of_lt hfuel
  rw [rounds, if_neg hstop]

/-- **The rounds end**, by induction on the evaluations that are left: every further round has
evaluated a candidate. -/
theorem rounds_ran (budget : Nat) (hinv : Inv l queues [] s)
    (hnow : Now first s.log s.round queues) (hswept : Swept h l first none s)
    (hbudget : l.maxCandidateEvaluations - s.evaluated ≤ budget) :
    ∃ fault s', (∀ fuel, budget < fuel → rounds h l fuel queues s = some (fault, s')) ∧
      Ran h l first queues s fault s' := by
  induction budget generalizing queues s with
  | zero =>
    refine rounds_stop hswept (fun hbelow => ?_) 0
    have hless := hbelow.1
    omega
  | succ budget ih =>
    by_cases hbelow : s.below l
    · -- the governor is asked before every round
      cases hreconcile : h.reconcile s.world with
      | error f =>
        refine ⟨some f, s, fun fuel hfuel => ?_, { hswept with served := ?_, cut := ?_ },
          fun _ => id, fun _ => .inl ⟨f, hreconcile, rfl⟩, by simp⟩
        · obtain ⟨fuel, rfl⟩ := Nat.exists_eq_add_of_lt hfuel
          rw [rounds, if_pos hbelow, hreconcile]
        · exact fun n qs hin _ => hswept.served n qs hin (.inr ⟨by simp, hbelow⟩)
        · rintro _ ⟨⟩
          exact .inl hreconcile
      | ok world =>
        have hwent := round_went hinv hswept.told hnow
          (fun n qs hin => hswept.served n qs hin (.inr ⟨by simp, hbelow⟩)) world rfl
        have hrounds : ∀ fuel, rounds h l (fuel + 1) queues s = _ := fun fuel => by
          rw [rounds, if_pos hbelow, hreconcile]
        dsimp only at hrounds
        generalize visitAll h l _ queues false _ = out at hwent hrounds
        have hswept' := hwent.swept
        cases hfault : out.fault with
        | some f =>
          rw [hfault] at hrounds hswept'
          refine ⟨some f, out.sweep, fun fuel hfuel => ?_, hswept', hwent.kept,
            fun _ => .inr hwent.begun, by simp⟩
          obtain ⟨fuel, rfl⟩ := Nat.exists_eq_add_of_lt hfuel
          exact hrounds _
        | none =>
          rw [hfault] at hrounds hswept'
          dsimp only at hrounds
          -- a round that moved nothing, or emptied every queue, is the last
          by_cases hstops : out.progressed = false ∨ out.queues.all (·.isEmpty) = true
          · refine ⟨none, out.sweep, fun fuel hfuel => ?_, hswept', hwent.kept,
              fun _ => .inr hwent.begun, fun _ _ => hwent.exhausted hfault hstops⟩
            obtain ⟨fuel, rfl⟩ := Nat.exists_eq_add_of_lt hfuel
            exact (hrounds _).trans (if_pos hstops)
          · -- else the budget is smaller
            have hmore := hwent.progressed (by
              rw [not_or, Bool.not_eq_false] at hstops
              exact hstops.1)
            have hless := hbelow.1
            obtain ⟨fault, s', hlater, hran⟩ :=
              ih hwent.inv (hwent.now hfault) hswept' (by omega)
            refine ⟨fault, s', fun fuel hfuel => ?_, hran.swept,
              fun e he => hran.kept e (hwent.kept e he),
              fun _ => .inr (hran.kept _ hwent.begun), hran.exhausted⟩
            obtain ⟨fuel, rfl⟩ : ∃ n, fuel = n + 1 := ⟨fuel - 1, by omega⟩
            exact ((hrounds fuel).trans (if_neg hstops)).trans
              (hlater fuel (Nat.lt_of_succ_lt_succ hfuel))
    · exact rounds_stop hswept hbelow _

/-! ### The law -/

structure Starts (h : Host σ Fault) (tables : σ → Tables Fault) (sweeping : Bool)
    (options : Options) (world w : σ) (candidates : List Candidate) : Prop where
  idle : sweeping = false
  authorised : options.authorised
  ensured : h.ensureCurrent world = .ok w
  listed : listed h tables options w = .ok candidates

/-- **What a sweep guarantees**, whatever its host answers. -/
structure SweepLaw (h : Host σ Fault) (tables : σ → Tables Fault) (sweeping : Bool)
    (maxCandidateEvaluations : Nat) (options : Options) (world : σ) (out : Outcome σ Fault) :
    Prop where
  evaluations : (evaluations out.sweep.log).length ≤ maxCandidateEvaluations
  admissions : (admissions out.sweep.log).length ≤
    options.maxAdmissions.getD maxCandidateEvaluations
  /-- No candidate is evaluated again after it was admitted. -/
  once : out.sweep.log.Pairwise fun e e' => ∀ n n' c runId, e = .admitted n c runId →
    e' ≠ .evaluated n' c
  /-- A round admits at most one node of a plan. -/
  perRound : out.sweep.log.Pairwise fun e e' => ∀ n c c' runId runId', e = .admitted n c runId →
    e' = .admitted n c' runId' → c.planId ≠ c'.planId
  /-- A sweep that does not start looks at nothing. -/
  idle : (∀ w candidates, ¬ Starts h tables sweeping options world w candidates) →
    out.sweep.log = []
  /-- One that starts makes its rounds over the listed candidates, as the host answers. -/
  told : ∀ w candidates, Starts h tables sweeping options world w candidates →
    Told h (options.limits maxCandidateEvaluations) (planQueues candidates) out.sweep.log
  /-- There is a first round, unless the limits allow none or the host cannot reconcile. -/
  begins : ∀ w candidates, Starts h tables sweeping options world w candidates →
    0 < maxCandidateEvaluations → 0 < options.maxAdmissions.getD maxCandidateEvaluations →
    (∃ fault, h.reconcile w = .error fault ∧ out.answer = .error (.other fault)) ∨
      .round 1 (planQueues candidates) ∈ out.sweep.log
  /-- A round goes on with the other queues, whatever fails with an execution error: unless a limit
  is reached or a call about a candidate throws a fault, each queue has all its candidates
  evaluated or one of them admitted. -/
  goesOn : ∀ n qs, .round n qs ∈ out.sweep.log →
    (n < out.sweep.round ∨
      ((∀ fault, out.answer = .error (.other fault) → ¬ h.CutsAt
          (options.limits maxCandidateEvaluations) out.sweep.world fault out.sweep.log) ∧
        (Scheduler.evaluations out.sweep.log).length < maxCandidateEvaluations ∧
        (Scheduler.admissions out.sweep.log).length <
          options.maxAdmissions.getD maxCandidateEvaluations)) →
    ∀ q ∈ qs, Served n out.sweep.log q
  /-- What it throws after its first entry is a fault of the host, at the last entry or as it is to
  begin the next round; an execution error of an admission is not. -/
  faults : ∀ e, out.answer = .error e → out.sweep.log ≠ [] → ∃ fault, e = .other fault ∧
    (h.reconcile out.sweep.world = .error fault ∨ h.CutsAt
      (options.limits maxCandidateEvaluations) out.sweep.world fault out.sweep.log)
  /-- One that returns has reached a limit, or its last round admitted or left nothing. -/
  ends : ∀ runs, out.answer = .ok runs →
    (Scheduler.evaluations out.sweep.log).length < maxCandidateEvaluations →
    (Scheduler.admissions out.sweep.log).length <
      options.maxAdmissions.getD maxCandidateEvaluations → Exhausted out.sweep
  /-- It returns the Runs it admitted. -/
  answer : ∀ runs, out.answer = .ok runs → runs = (Scheduler.admissions out.sweep.log).eraseDups

/-- The same sweep, or both ended before a candidate was looked at. -/
def SameSweep (out out' : Outcome σ Fault) : Prop :=
  out'.sweep = out.sweep ∧ (out'.answer = out.answer ∨
    ∃ e e', out.answer = .error e ∧ out'.answer = .error e' ∧ out.sweep.log = [])

section Sweep

variable {tables : σ → Tables Fault} {sweeping : Bool} {maxCandidateEvaluations : Nat}
  {options : Options} {world : σ}

theorem sweepLaw_of_empty {answer : Except (Failure Fault) (List String)} {world' : σ}
    (hanswer : ∀ runs, answer = .ok runs → runs = [])
    (hstarts : ∀ w candidates, ¬ Starts h tables sweeping options world w candidates) :
    SweepLaw h tables sweeping maxCandidateEvaluations options world ⟨answer, .start world'⟩ where
  evaluations := Nat.zero_le _
  admissions := Nat.zero_le _
  once := .nil
  perRound := .nil
  idle _ := rfl
  told w candidates hstart := absurd hstart (hstarts w candidates)
  begins w candidates hstart := absurd hstart (hstarts w candidates)
  goesOn := nofun
  faults _ _ hlog := absurd rfl hlog
  ends _ _ _ _ := nofun
  answer := hanswer

theorem inv_start {candidates : List Candidate} (hapart : Apart (planQueues candidates))
    (world : σ) (l : Limits) : Inv l (planQueues candidates) [] (Sweep.start world) where
  apart := hapart
  within := ⟨Nat.zero_le _, Nat.zero_le _⟩
  evaluated := rfl
  admitted := rfl
  rounds := nofun
  gone := nofun
  once := .nil
  perRound := .nil
  fresh := nofun

variable (maxCandidateEvaluations) in
/-- The rounds of a sweep from its candidates. -/
theorem rounds_law {w : σ} {candidates : List Candidate}
    (hstarts : Starts h tables sweeping options world w candidates) :
    ∃ fault s, (∀ fuel, maxCandidateEvaluations < fuel →
        rounds h (options.limits maxCandidateEvaluations) fuel (planQueues candidates)
          (.start w) = some (fault, s)) ∧
      SweepLaw h tables sweeping maxCandidateEvaluations options world (match fault with
        | some fault => (⟨.error (.other fault), s⟩ : Outcome σ Fault)
        | none => ⟨.ok s.admitted.eraseDups, s⟩) := by
  generalize hl : options.limits maxCandidateEvaluations = l
  have hapart : Apart (planQueues candidates) :=
    planQueues_apart (nodup_candidates hstarts.listed) fun c hc c' hc' =>
      approvedAt_eq hstarts.listed hc hc'
  have hinv := inv_start hapart w l
  have hnow : Now (planQueues candidates) [] 0 (planQueues candidates) := .inl ⟨rfl, rfl⟩
  have hstart : Swept h l (planQueues candidates) none (Sweep.start w) :=
    hinv.swept ⟨nofun, nofun, nofun⟩ nofun nofun
  obtain ⟨fault, s, hrounds, hran⟩ := rounds_ran maxCandidateEvaluations hinv hnow hstart (by
    rw [← hl]
    exact Nat.le_refl maxCandidateEvaluations)
  have hswept := hran.swept
  refine ⟨fault, s, hrounds, ?_⟩
  subst hl
  have hbelow : (evaluations s.log).length < maxCandidateEvaluations →
      (admissions s.log).length < options.maxAdmissions.getD maxCandidateEvaluations →
      s.below (options.limits maxCandidateEvaluations) := fun hless hless' =>
    ⟨hswept.evaluated ▸ hless, hswept.admitted ▸ hless'⟩
  -- what does not depend on how the sweep ends
  have hlaw : ∀ answer : Except (Failure Fault) (List String),
      (∀ f, answer = .error (.other f) ↔ fault = some f) →
      (∀ e, answer = .error e → ∃ f, e = .other f) →
      (∀ runs, answer = .ok runs → fault = none ∧ runs = s.admitted.eraseDups) →
      SweepLaw h tables sweeping maxCandidateEvaluations options world ⟨answer, s⟩ := by
    intro answer hfault herror hok
    refine ⟨hswept.evaluated ▸ hswept.within.1, hswept.admitted ▸ hswept.within.2, hswept.once,
      hswept.perRound, fun hno => absurd hstarts (hno w candidates), fun w' candidates' h' => ?_,
      fun w' candidates' h' hpos hpos' => ?_, fun n qs hin hwhole => hswept.served n qs hin ?_,
      fun e he hlog => ?_, fun runs hruns hless hless' =>
        hran.exhausted (hok runs hruns).1 (hbelow hless hless'), fun runs hruns => ?_⟩
    · obtain rfl := Except.ok.inj (hstarts.ensured.symm.trans h'.ensured)
      obtain rfl := Except.ok.inj (hstarts.listed.symm.trans h'.listed)
      exact hswept.told
    · obtain rfl := Except.ok.inj (hstarts.ensured.symm.trans h'.ensured)
      obtain rfl := Except.ok.inj (hstarts.listed.symm.trans h'.listed)
      obtain ⟨f, hreconcile, hf⟩ | hbegun := hran.begun ⟨hpos, hpos'⟩
      · exact .inl ⟨f, hreconcile, (hfault f).mpr hf⟩
      · exact .inr hbegun
    · refine hwhole.imp_right ?_
      rintro ⟨hcut, hless, hless'⟩
      exact ⟨fun f hf => hcut f ((hfault f).mpr hf), hbelow hless hless'⟩
    · obtain ⟨f, rfl⟩ := herror e he
      exact ⟨f, rfl, hswept.cut f ((hfault f).mp he)⟩
    · rw [← hswept.admitted]
      exact (hok runs hruns).2
  cases fault with
  | some fault => exact hlaw _ (by simp) (by simp [eq_comm]) nofun
  | none => exact hlaw _ (by simp) nofun fun runs hruns => ⟨rfl, (Except.ok.inj hruns).symm⟩

/-- A sweep ends and keeps the law. -/
theorem sweep_keeps (h : Host σ Fault) (tables : σ → Tables Fault) (sweeping : Bool)
    (maxCandidateEvaluations : Nat) (options : Options) (world : σ) : ∃ out,
    (∀ fuel, maxCandidateEvaluations < fuel →
      sweep h tables sweeping maxCandidateEvaluations options fuel world = some out) ∧
    SweepLaw h tables sweeping maxCandidateEvaluations options world out := by
  unfold sweep
  cases sweeping with
  | true =>
    exact ⟨_, fun _ _ => rfl, sweepLaw_of_empty (by simp) fun _ _ hstarts =>
      Bool.true_eq_false.mp hstarts.idle⟩
  | false =>
    simp only [Bool.false_eq_true, if_false]
    by_cases hauthority : options.authorised
    · simp only [hauthority, if_true]
      cases hensured : h.ensureCurrent world with
      | error fault =>
        refine ⟨_, fun _ _ => rfl, sweepLaw_of_empty nofun fun _ _ hstarts => ?_⟩
        cases hensured.symm.trans hstarts.ensured
      | ok w =>
        dsimp only
        cases hlisted : listed h tables options w with
        | error fault =>
          refine ⟨_, fun _ _ => rfl, sweepLaw_of_empty nofun fun _ _ hstarts => ?_⟩
          obtain rfl := Except.ok.inj (hensured.symm.trans hstarts.ensured)
          cases hlisted.symm.trans hstarts.listed
        | ok candidates =>
          obtain ⟨fault, s, hrounds, hlaw⟩ := rounds_law maxCandidateEvaluations
            ⟨rfl, hauthority, hensured, hlisted⟩
          refine ⟨_, fun fuel hfuel => ?_, hlaw⟩
          dsimp only
          rw [hrounds fuel hfuel]
          rfl
    · simp only [hauthority, if_false]
      exact ⟨_, fun _ _ => rfl, sweepLaw_of_empty nofun fun _ _ hstarts =>
        hauthority hstarts.authorised⟩

/-- The order of the rows does not matter. -/
theorem sweep_sameRows {tables' : σ → Tables Fault}
    (hsame : ∀ w, SameRows (tables w) (tables' w)) {fuel : Nat} {out out' : Outcome σ Fault}
    (hout : sweep h tables sweeping maxCandidateEvaluations options fuel world = some out)
    (hout' : sweep h tables' sweeping maxCandidateEvaluations options fuel world = some out') :
    SameSweep out out' := by
  unfold sweep at hout hout'
  have heq : ∀ {o : Outcome σ Fault}, some o = some out → some o = some out' →
      SameSweep out out' := by
    rintro o ⟨⟩ ⟨⟩
    exact ⟨rfl, .inl rfl⟩
  cases sweeping with
  | true => exact heq hout hout'
  | false =>
    simp only [Bool.false_eq_true, if_false] at hout hout'
    split at hout
    · next hauthority =>
        rw [if_pos hauthority] at hout'
        cases hensured : h.ensureCurrent world with
        | error fault =>
          rw [hensured] at hout hout'
          exact heq hout hout'
        | ok w =>
          rw [hensured] at hout hout'
          dsimp only at hout hout'
          cases hlisted : listed h tables options w with
          | error fault =>
            rw [hlisted] at hout
            cases hlisted' : listed h tables' options w with
            | error fault' =>
              rw [hlisted'] at hout'
              cases hout
              cases hout'
              exact ⟨rfl, .inr ⟨_, _, rfl, rfl, rfl⟩⟩
            | ok candidates =>
              have hback := listCandidates_sameRows (hsame w).symm hlisted'
              cases hlisted.symm.trans hback
          | ok candidates =>
            have hlisted' : listed h tables' options w = .ok candidates :=
              listCandidates_sameRows (hsame w) hlisted
            rw [hlisted] at hout
            rw [hlisted'] at hout'
            obtain rfl := Option.mem_unique hout hout'
            exact ⟨rfl, .inl rfl⟩
    · next hauthority =>
        rw [if_neg hauthority] at hout'
        exact heq hout hout'

end Sweep

variable (h) (tables : σ → Tables Fault) (sweeping : Bool) (maxCandidateEvaluations : Nat)
  (options : Options) (world : σ)

/-- **The sweep** ends and keeps to its law. It does not depend on the order of the rows, nor on
anything but the turns of the candidates, the cursors and what the host answers: a sweep whose
lists agree in the turns, on a host that answers alike, does the same. -/
theorem sweep_law : ∃ out,
    (∀ fuel, maxCandidateEvaluations < fuel →
      sweep h tables sweeping maxCandidateEvaluations options fuel world = some out) ∧
    SweepLaw h tables sweeping maxCandidateEvaluations options world out ∧
    (∀ tables', (∀ w, SameRows (tables w) (tables' w)) → ∃ out',
      (∀ fuel, maxCandidateEvaluations < fuel →
        sweep h tables' sweeping maxCandidateEvaluations options fuel world = some out') ∧
      SameSweep out out') ∧
    ∀ (σ' : Type) (R : σ → σ' → Prop) (h' : Host σ' Fault) (tables' : σ' → Tables Fault)
      (world' : σ'), Agrees R (options.limits maxCandidateEvaluations) h h'
        (listed h tables options) (listed h' tables' options) → R world world' → ∃ out',
      (∀ fuel, maxCandidateEvaluations < fuel →
        sweep h' tables' sweeping maxCandidateEvaluations options fuel world' = some out') ∧
      AlikeSweep R out out' := by
  obtain ⟨out, hout, hlaw⟩ :=
    sweep_keeps h tables sweeping maxCandidateEvaluations options world
  have hmore := Nat.lt_succ_self maxCandidateEvaluations
  refine ⟨out, hout, hlaw, fun tables' hsame => ?_, fun σ' R h' tables' world' hagrees hworld => ?_⟩
  · obtain ⟨out', hout', -⟩ :=
      sweep_keeps h tables' sweeping maxCandidateEvaluations options world
    exact ⟨out', hout', sweep_sameRows hsame (hout _ hmore) (hout' _ hmore)⟩
  · obtain ⟨out', hout', -⟩ :=
      sweep_keeps h' tables' sweeping maxCandidateEvaluations options world'
    exact ⟨out', hout', sweep_alike hagrees hworld (hout _ hmore) (hout' _ hmore)⟩

end Facts

end AgentRoom.Scheduler
