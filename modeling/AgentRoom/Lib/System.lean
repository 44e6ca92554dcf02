import Mathlib.Logic.Relation

/-!
# Labelled systems and their runs

A system is a set of initial states and a labelled step relation. An invariant
is proved once: it holds initially and every step preserves it, hence it holds
of every reachable state. A preorder that every step respects relates any state
of a run to every later one.

`restrict` keeps only the steps whose label and source state meet a condition;
its runs are the runs of the system whose every step meets it.
-/

/-- A labelled transition system. -/
structure System (σ ι : Type) where
  init : σ → Prop
  step : ι → σ → σ → Prop

namespace System

variable {σ ι : Type} (L : System σ ι)

/-- One step, whatever its label. -/
def Next (s s' : σ) : Prop := ∃ i, L.step i s s'

/-- `s'` is reached from `s` in zero or more steps. -/
def Steps (s s' : σ) : Prop := Relation.ReflTransGen L.Next s s'

/-- Reached from some initial state. -/
def Reachable (s : σ) : Prop := ∃ s₀, L.init s₀ ∧ L.Steps s₀ s

/-- The runs of `L` whose every step meets `ok`. -/
def restrict (ok : ι → σ → Prop) : System σ ι where
  init := L.init
  step i s s' := ok i s ∧ L.step i s s'

variable {L}

theorem reachable_init {s : σ} (h : L.init s) : L.Reachable s := ⟨s, h, .refl⟩

theorem reachable_step {s s' : σ} {i : ι} (h : L.Reachable s) (hs : L.step i s s') :
    L.Reachable s' := by
  obtain ⟨s₀, h0, hr⟩ := h
  exact ⟨s₀, h0, hr.tail ⟨i, hs⟩⟩

variable {s : σ}

theorem reachable_steps {s' : σ} (h : L.Reachable s) (hs : L.Steps s s') :
    L.Reachable s' := by
  obtain ⟨s₀, h0, hr⟩ := h
  exact ⟨s₀, h0, hr.trans hs⟩

/-- **The invariant rule.** -/
theorem invariant (I : σ → Prop) (h0 : ∀ s, L.init s → I s)
    (hstep : ∀ i s s', L.step i s s' → I s → I s') (h : L.Reachable s) : I s := by
  obtain ⟨s₀, hi, hr⟩ := h
  induction hr with
  | refl => exact h0 _ hi
  | tail _ hs ih =>
    obtain ⟨i, hs⟩ := hs
    exact hstep _ _ _ hs ih

/-- **The run rule.** A preorder that every step from a reachable state respects holds between
any reachable state and every later one. -/
theorem along_run {R : σ → σ → Prop} (hrefl : ∀ s, R s s)
    (htrans : ∀ a b c, R a b → R b c → R a c)
    (hstep : ∀ i s s', L.Reachable s → L.step i s s' → R s s') {s s' : σ}
    (h : L.Reachable s) (hs : L.Steps s s') : R s s' := by
  induction hs with
  | refl => exact hrefl s
  | tail hpre hlast ih =>
    obtain ⟨i, hlast⟩ := hlast
    exact htrans _ _ _ ih (hstep _ _ _ (reachable_steps h hpre) hlast)

theorem steps_of_restrict {ok : ι → σ → Prop} {s' : σ} (h : (L.restrict ok).Steps s s') :
    L.Steps s s' := by
  refine Relation.ReflTransGen.mono ?_ _ _ h
  rintro a b ⟨i, -, hs⟩
  exact ⟨i, hs⟩

theorem reachable_of_restrict {ok : ι → σ → Prop} (h : (L.restrict ok).Reachable s) :
    L.Reachable s := by
  obtain ⟨s₀, hi, hr⟩ := h
  exact ⟨s₀, hi, steps_of_restrict hr⟩

end System
