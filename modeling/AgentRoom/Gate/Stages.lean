import AgentRoom.Gate.Calls

/-!
# The stages of the calls of the execution gate

What counts about a call is its stage: it waits, it has been offered the permit, it owes the
permit, it holds it, or it is over. A queue lists the waiting calls of its Agent in the order of
their numbers; at most one call of an Agent bears the permit, and every call that has returned
with it came before all that are still waiting.
-/

namespace AgentRoom.Gate

inductive Stage where
  | waiting | offered | owing | held | released | refused
  deriving DecidableEq

/-- The permit is with the call. -/
def Stage.bears : Stage → Bool
  | .offered | .owing | .held => true
  | _ => false

/-- `Acquire` has returned a release function. -/
def Stage.got : Stage → Bool
  | .held | .released => true
  | _ => false

section Facts

variable {Agent Ctx : Type}

def Call.stage (call : Call Agent Ctx) : Stage :=
  match call.phase with
  | .selecting | .leaving => if call.ready then .offered else .waiting
  | .woken => .offered
  | .owing => .owing
  | .refused => .refused
  | .holding | .releasing => .held
  | .released => .released

/-- The Agent and the stage of every call. -/
def stages (calls : List (Call Agent Ctx)) (id : CallId) : Option (Agent × Stage) :=
  (calls[id]?).map fun call => (call.agent, call.stage)

/-- What holds of the maps, the stages and the history of returns, with `n` calls. -/
structure Sound (n : Nat) (active : Agent → Bool) (queues : Agent → List CallId)
    (view : CallId → Option (Agent × Stage)) (returned : List CallId) : Prop where
  numbered : ∀ c a s, view c = some (a, s) → c < n
  queued : ∀ a c, c ∈ queues a ↔ view c = some (a, .waiting)
  sorted : ∀ a, (queues a).Pairwise (· < ·)
  free : ∀ a, active a = false → queues a = []
  borne : ∀ a, active a = true → ∃ c s, view c = some (a, s) ∧ s.bears = true
  taken : ∀ a c s, view c = some (a, s) → s.bears = true → active a = true
  one : ∀ a c c' s s', view c = some (a, s) → s.bears = true → view c' = some (a, s') →
    s'.bears = true → c = c'
  ahead : ∀ a c c' s, view c = some (a, s) → s.bears = true ∨ s.got = true →
    view c' = some (a, .waiting) → c < c'
  first : ∀ a c c' s, view c = some (a, s) → s.got = true → view c' = some (a, .offered) → c < c'
  got : ∀ c, c ∈ returned ↔ ∃ a s, view c = some (a, s) ∧ s.got = true
  order : returned.Pairwise fun c c' =>
    ∀ a s s', view c = some (a, s) → view c' = some (a, s') → c < c'

variable {n : Nat} {active : Agent → Bool} {queues : Agent → List CallId}
  {view : CallId → Option (Agent × Stage)} {returned : List CallId}

theorem sound_new : Sound 0 (fun _ : Agent => false) (fun _ => []) (fun _ => none) [] := by
  constructor <;> simp

variable {c : CallId} {a : Agent} {s : Stage}

theorem update_view {c₁ : CallId} {a₁ : Agent} {s₁ : Stage} :
    Function.update view c (some (a, s)) c₁ = some (a₁, s₁) ↔
      (c₁ = c ∧ a₁ = a ∧ s₁ = s) ∨ (c₁ ≠ c ∧ view c₁ = some (a₁, s₁)) := by
  by_cases heq : c₁ = c
  · subst heq
    simp [Function.update_self, eq_comm]
  · simp [heq]

theorem order_mono {view' : CallId → Option (Agent × Stage)}
    (hback : ∀ c a s', view' c = some (a, s') → ∃ s, view c = some (a, s))
    (h : returned.Pairwise fun c c' =>
      ∀ a s s', view c = some (a, s) → view c' = some (a, s') → c < c') :
    returned.Pairwise fun c c' =>
      ∀ a s s', view' c = some (a, s) → view' c' = some (a, s') → c < c' := by
  refine h.imp fun {c c'} hlt a s s' hc hc' => ?_
  obtain ⟨t, hc⟩ := hback _ _ _ hc
  obtain ⟨t', hc'⟩ := hback _ _ _ hc'
  exact hlt _ _ _ hc hc'

/-- A call with its permit on offer returns with it, or will not use it. -/
theorem Sound.settles {returned' : List CallId} (h : Sound n active queues view returned)
    (hview : view c = some (a, .offered))
    (hs : (s = .held ∧ returned' = returned ++ [c]) ∨ (s = .owing ∧ returned' = returned)) :
    Sound n active queues (Function.update view c (some (a, s))) returned' where
  numbered := by
    have := h.numbered
    grind [update_view]
  queued := by
    have := h.queued
    grind [update_view]
  sorted := h.sorted
  free := h.free
  borne := fun a₁ h₁ => by
    obtain ⟨c₁, s₁, hc₁, hs₁⟩ := h.borne a₁ h₁
    by_cases heq : c₁ = c
    · subst heq
      obtain ⟨rfl, rfl⟩ := Prod.mk.inj (Option.mem_unique hc₁ hview)
      exact ⟨c₁, s, update_view.mpr (.inl ⟨rfl, rfl, rfl⟩), by grind [Stage.bears]⟩
    · exact ⟨c₁, s₁, update_view.mpr (.inr ⟨heq, hc₁⟩), hs₁⟩
  taken := by
    have := h.taken
    grind [update_view, Stage.bears]
  one := by
    have := h.one
    grind [update_view, Stage.bears]
  ahead := by
    have := h.ahead
    grind [update_view, Stage.bears, Stage.got]
  first := by
    -- the offered call is the one that bears
    have hfirst := h.first
    have hone := h.one a
    grind [update_view, Stage.bears, Stage.got]
  got := by
    have := h.got
    grind [update_view, Stage.bears, Stage.got]
  order := by
    obtain ⟨rfl, rfl⟩ | ⟨-, rfl⟩ := hs
    · refine List.pairwise_append.mpr ⟨order_mono (by grind [update_view]) h.order, by simp, ?_⟩
      have hfirst := h.first
      have hgot := h.got
      grind [update_view, Stage.got]
    · exact order_mono (by grind [update_view]) h.order

variable [DecidableEq Agent]

/-- A waiting call leaves the queue. -/
theorem Sound.withdraws (h : Sound n active queues view returned)
    (hview : view c = some (a, .waiting)) :
    Sound n active (Function.update queues a ((queues a).erase c))
      (Function.update view c (some (a, .refused))) returned := by
  -- a queue holds a call once
  have hnodup : (queues a).Nodup := (h.sorted a).imp fun h => Nat.ne_of_lt h
  exact {
    numbered := by
      have := h.numbered
      grind [update_view]
    queued := fun a₁ c₁ => by
      by_cases heq : a₁ = a
      · subst heq
        rw [Function.update_self, hnodup.mem_erase_iff, h.queued, update_view]
        grind
      · rw [Function.update_of_ne heq, h.queued, update_view]
        grind
    sorted := fun a₁ => by
      by_cases heq : a₁ = a
      · subst heq
        rw [Function.update_self]
        exact (h.sorted a₁).sublist List.erase_sublist
      · rw [Function.update_of_ne heq]
        exact h.sorted a₁
    free := fun a₁ h₁ => by
      by_cases heq : a₁ = a
      · subst heq
        simp [h.free a₁ h₁]
      · rw [Function.update_of_ne heq]
        exact h.free a₁ h₁
    borne := fun a₁ h₁ => by
      obtain ⟨c₁, s₁, hc₁, hs₁⟩ := h.borne a₁ h₁
      refine ⟨c₁, s₁, update_view.mpr (.inr ⟨?_, hc₁⟩), hs₁⟩
      rintro rfl
      grind [Stage.bears]
    taken := by
      have := h.taken
      grind [update_view, Stage.bears]
    one := by
      have := h.one
      grind [update_view, Stage.bears]
    ahead := by
      have := h.ahead
      grind [update_view, Stage.bears, Stage.got]
    first := by
      have := h.first
      grind [update_view, Stage.bears, Stage.got]
    got := by
      have := h.got
      grind [update_view, Stage.bears, Stage.got]
    order := order_mono (by grind [update_view]) h.order }

/-- The stages of a call before and after it gives its permit back. -/
def Gives (s t : Stage) : Prop :=
  (s = .owing ∧ t = .refused) ∨ (s = .held ∧ t = .released)

/-- The permit is given back and nobody waits. -/
theorem Sound.frees {t : Stage} (h : Sound n active queues view returned)
    (hview : view c = some (a, s)) (hgives : Gives s t) (hempty : queues a = []) :
    Sound n (Function.update active a false) queues (Function.update view c (some (a, t)))
      returned := by
  unfold Gives at hgives
  exact {
    numbered := by
      have := h.numbered
      grind [update_view]
    queued := by
      have := h.queued
      grind [update_view]
    sorted := h.sorted
    free := by
      have := h.free
      grind [Function.update_apply]
    borne := fun a₁ h₁ => by
      -- the freed Agent has no bearer, and needs none
      have hne : a₁ ≠ a := by
        rintro rfl
        simp at h₁
      rw [Function.update_of_ne hne] at h₁
      obtain ⟨c₁, s₁, hc₁, hs₁⟩ := h.borne a₁ h₁
      exact ⟨c₁, s₁, update_view.mpr (.inr ⟨by grind, hc₁⟩), hs₁⟩
    taken := by
      have htaken := h.taken
      have hone := h.one a
      grind [update_view, Stage.bears, Function.update_apply]
    one := by
      have := h.one
      grind [update_view, Stage.bears]
    ahead := by
      have := h.ahead
      grind [update_view, Stage.bears, Stage.got]
    first := by
      have := h.first
      grind [update_view, Stage.bears, Stage.got]
    got := by
      have := h.got
      grind [update_view, Stage.bears, Stage.got]
    order := order_mono (by grind [update_view]) h.order }

/-- The permit goes to the first waiter. -/
theorem Sound.passes {next : CallId} {queue : List CallId} {t : Stage}
    (h : Sound n active queues view returned) (hview : view c = some (a, s)) (hgives : Gives s t)
    (hqueue : queues a = next :: queue) :
    Sound n active (Function.update queues a queue)
      (Function.update (Function.update view next (some (a, .offered))) c (some (a, t)))
      returned := by
  have hnext : view next = some (a, .waiting) := (h.queued a next).mp (by simp [hqueue])
  have hne : next ≠ c := by grind [Gives]
  have hsorted := hqueue ▸ h.sorted a
  have hhead : ∀ c' ∈ queue, next < c' := fun _ h => List.rel_of_pairwise_cons hsorted h
  unfold Gives at hgives
  -- the permit of the Agent is with `next`, the others are untouched
  have hbears : ∀ a₁ c₁ s₁, Function.update (Function.update view next (some (a, .offered))) c
      (some (a, t)) c₁ = some (a₁, s₁) → s₁.bears = true →
      (c₁ = next ∧ a₁ = a) ∨ (a₁ ≠ a ∧ view c₁ = some (a₁, s₁)) := by
    have hone := h.one a
    grind [update_view, Stage.bears]
  exact {
    numbered := by
      have := h.numbered
      grind [update_view]
    queued := fun a₁ c₁ => by
      have hrest : view c₁ = some (a, .waiting) ↔ c₁ = next ∨ c₁ ∈ queue := by
        rw [← h.queued, hqueue, List.mem_cons]
      have hself : next ∉ queue := fun hin => Nat.lt_irrefl _ (hhead _ hin)
      by_cases heq : a₁ = a
      · subst heq
        rw [Function.update_self, update_view, update_view]
        grind
      · rw [Function.update_of_ne heq, h.queued, update_view, update_view]
        grind
    sorted := fun a₁ => by
      by_cases heq : a₁ = a
      · subst heq
        rw [Function.update_self]
        exact hsorted.of_cons
      · rw [Function.update_of_ne heq]
        exact h.sorted a₁
    free := fun a₁ h₁ => by
      have hne₁ : a₁ ≠ a := by
        rintro rfl
        simp [h.free a₁ h₁] at hqueue
      rw [Function.update_of_ne hne₁]
      exact h.free a₁ h₁
    borne := fun a₁ h₁ => by
      by_cases heq : a₁ = a
      · subst heq
        exact ⟨next, .offered,
          update_view.mpr (.inr ⟨hne, update_view.mpr (.inl ⟨rfl, rfl, rfl⟩)⟩), rfl⟩
      · obtain ⟨c₁, s₁, hc₁, hs₁⟩ := h.borne a₁ h₁
        refine ⟨c₁, s₁, update_view.mpr (.inr ⟨?_, update_view.mpr (.inr ⟨?_, hc₁⟩)⟩), hs₁⟩ <;>
          grind
    taken := by
      have := h.taken
      grind [update_view, Stage.bears]
    one := fun a₁ c₁ c₂ s₁ s₂ hc₁ hs₁ hc₂ hs₂ => by
      obtain ⟨heq₁, ha₁⟩ | ⟨hne₁, hc₁⟩ := hbears a₁ c₁ s₁ hc₁ hs₁ <;>
        obtain ⟨heq₂, ha₂⟩ | ⟨hne₂, hc₂⟩ := hbears a₁ c₂ s₂ hc₂ hs₂
      · exact heq₁.trans heq₂.symm
      · exact absurd ha₁ hne₂
      · exact absurd ha₂ hne₁
      · exact h.one a₁ c₁ c₂ s₁ s₂ hc₁ hs₁ hc₂ hs₂
    ahead := by
      have hahead := h.ahead
      have hqueued := h.queued a
      grind [update_view, Stage.bears, Stage.got]
    first := by
      have hahead := h.ahead a
      have hfirst := h.first
      grind [update_view, Stage.bears, Stage.got]
    got := by
      have := h.got
      grind [update_view, Stage.bears, Stage.got]
    order := order_mono (by grind [update_view]) h.order }

/-- A call takes the permit of a free Agent. -/
theorem Sound.enters (h : Sound n active queues view returned) (hfree : active a = false) :
    Sound (n + 1) (Function.update active a true) queues
      (Function.update view n (some (a, .held))) (returned ++ [n]) := by
  have hnumbered := h.numbered
  have hempty : ∀ c, view c ≠ some (a, .waiting) := by simp [← h.queued, h.free a hfree]
  have hnobody : ∀ c s, view c = some (a, s) → s.bears = false := by
    have := h.taken a
    grind
  exact {
    numbered := by grind [update_view]
    queued := by
      have := h.queued
      grind [update_view]
    sorted := h.sorted
    free := by
      have := h.free
      grind [Function.update_apply]
    borne := fun a₁ h₁ => by
      by_cases heq : a₁ = a
      · subst heq
        exact ⟨n, .held, update_view.mpr (.inl ⟨rfl, rfl, rfl⟩), rfl⟩
      · rw [Function.update_of_ne heq] at h₁
        obtain ⟨c₁, s₁, hc₁, hs₁⟩ := h.borne a₁ h₁
        exact ⟨c₁, s₁, update_view.mpr (.inr ⟨by grind, hc₁⟩), hs₁⟩
    taken := by
      have := h.taken
      grind [update_view, Function.update_apply]
    one := by
      have := h.one
      grind [update_view]
    ahead := by
      have := h.ahead
      grind [update_view]
    first := by
      have := h.first
      grind [update_view, Stage.bears]
    got := by
      have := h.got
      grind [update_view, Stage.got]
    order := by
      have hgot := h.got
      refine List.pairwise_append.mpr ⟨?_, by simp, by grind [update_view]⟩
      refine h.order.imp_of_mem fun {c c'} hc hc' hlt a₁ s s' hs hs' => hlt a₁ s s' ?_ ?_ <;>
        grind [update_view] }

/-- A call joins the queue of an Agent whose permit is taken. -/
theorem Sound.joins (h : Sound n active queues view returned) (htaken : active a = true) :
    Sound (n + 1) active (Function.update queues a (queues a ++ [n]))
      (Function.update view n (some (a, .waiting))) returned := by
  have hnumbered := h.numbered
  -- the newcomer is later than all who wait
  have hlt : ∀ c ∈ queues a, c < n := fun c hc => hnumbered c a _ ((h.queued a c).mp hc)
  exact {
    numbered := by grind [update_view]
    queued := fun a₁ c₁ => by
      have hqueued := h.queued a₁ c₁
      by_cases heq : a₁ = a
      · subst heq
        rw [Function.update_self, update_view, List.mem_append, List.mem_singleton]
        grind
      · rw [Function.update_of_ne heq, update_view]
        grind
    sorted := fun a₁ => by
      by_cases heq : a₁ = a
      · subst heq
        rw [Function.update_self]
        exact List.pairwise_append.mpr ⟨h.sorted a₁, by simp, by simpa using hlt⟩
      · rw [Function.update_of_ne heq]
        exact h.sorted a₁
    free := by
      have := h.free
      grind [Function.update_apply]
    borne := fun a₁ h₁ => by
      obtain ⟨c₁, s₁, hc₁, hs₁⟩ := h.borne a₁ h₁
      exact ⟨c₁, s₁, update_view.mpr (.inr ⟨by grind, hc₁⟩), hs₁⟩
    taken := by
      have := h.taken
      grind [update_view, Stage.bears]
    one := by
      have := h.one
      grind [update_view, Stage.bears]
    ahead := by
      have := h.ahead
      grind [update_view, Stage.bears, Stage.got]
    first := by
      have := h.first
      grind [update_view, Stage.got]
    got := by
      have := h.got
      grind [update_view, Stage.got]
    order := by
      have hgot := h.got
      refine h.order.imp_of_mem fun {c c'} hc hc' hlt a₁ s s' hs hs' => hlt a₁ s s' ?_ ?_ <;>
        grind [update_view] }

end Facts

end AgentRoom.Gate
