import AgentRoom.Lib.Proc

/-!
# Programs that may be stopped

A program performs its operations on a state, each as `act` allows: an operation may have several
answers, and a failure may leave the state half changed. `Reaches act x s y s'` says that `x`,
started in `s`, may have `y` left to do in `s'`, so that `s'` is what a stop at this moment leaves.

`Safe act Inv Q x s` is the triple of such programs: `Inv` holds at every moment of `x` from `s`,
the last one included, and `Q` of the result and the state where `x` ends.
-/

namespace Proc

variable {I : Interface} {ε α β σ : Type}

/-- What the operations may do: an answer, and a state before and after. -/
abbrev Acts (I : Interface) (σ : Type) : Type := (op : I.Op) → I.Resp op → σ → σ → Prop

/-- **Some moment of a program.** -/
inductive Reaches (act : Acts I σ) : Proc I ε α → σ → Proc I ε α → σ → Prop
  | now (x : Proc I ε α) (s : σ) : Reaches act x s x s
  | later {op : I.Op} {k : I.Resp op → Proc I ε α} {r : I.Resp op} {s s₁ s' : σ}
      {y : Proc I ε α} (h : act op r s s₁) (rest : Reaches act (k r) s₁ y s') :
      Reaches act (.call op k) s y s'

/-- **`Inv` at every moment, `Q` at the end.** -/
def Safe (act : Acts I σ) (Inv : σ → Prop) (Q : Except ε α → σ → Prop) :
    Proc I ε α → σ → Prop
  | .ret a, s => Inv s ∧ Q (.ok a) s
  | .fail e, s => Inv s ∧ Q (.error e) s
  | .call op k, s => Inv s ∧ ∀ r s', act op r s s' → Safe act Inv Q (k r) s'

section Rules

variable {act : Acts I σ} {Inv : σ → Prop} {Q R : Except ε α → σ → Prop} {s s' : σ}

theorem safe_ret {a : α} (hs : Inv s) (hq : Q (.ok a) s) :
    Safe act Inv Q (.ret a : Proc I ε α) s := ⟨hs, hq⟩

theorem safe_fail {e : ε} (hs : Inv s) (hq : Q (.error e) s) :
    Safe act Inv Q (.fail e : Proc I ε α) s := ⟨hs, hq⟩

theorem safe_call {op : I.Op} {k : I.Resp op → Proc I ε α} (hs : Inv s)
    (hk : ∀ r s', act op r s s' → Safe act Inv Q (k r) s') : Safe act Inv Q (.call op k) s :=
  ⟨hs, hk⟩

variable {x : Proc I ε α}

theorem Safe.now (h : Safe act Inv Q x s) : Inv s := by
  cases x with
  | ret a => exact h.1
  | fail e => exact h.1
  | call op k => exact h.1

/-- **Sequencing.** -/
theorem safe_bind {x : Proc I ε β} {f : β → Proc I ε α} {S : Except ε β → σ → Prop}
    (hx : Safe act Inv S x s) (hf : ∀ b s', Inv s' → S (.ok b) s' → Safe act Inv Q (f b) s')
    (he : ∀ e s', Inv s' → S (.error e) s' → Q (.error e) s') : Safe act Inv Q (x.bind f) s := by
  induction x generalizing s with
  | ret b => exact hf b s hx.1 hx.2
  | fail e => exact ⟨hx.1, he e s hx.1 hx.2⟩
  | call op k ih => exact ⟨hx.1, fun r s' h => ih r (hx.2 r s' h)⟩

theorem safe_attempt {T : Except ε (Except ε α) → σ → Prop} (hx : Safe act Inv Q x s)
    (h : ∀ r s', Inv s' → Q r s' → T (.ok r) s') :
    Safe act Inv T x.attempt s := by
  induction x generalizing s with
  | ret b => exact ⟨hx.1, h _ s hx.1 hx.2⟩
  | fail e => exact ⟨hx.1, h _ s hx.1 hx.2⟩
  | call op k ih => exact ⟨hx.1, fun r s' hr => ih r (hx.2 r s' hr)⟩

theorem Safe.mono (h : Safe act Inv Q x s) (hQR : ∀ r s', Inv s' → Q r s' → R r s') :
    Safe act Inv R x s := by
  induction x generalizing s with
  | ret a => exact ⟨h.1, hQR _ s h.1 h.2⟩
  | fail e => exact ⟨h.1, hQR _ s h.1 h.2⟩
  | call op k ih => exact ⟨h.1, fun r s' hr => ih r (h.2 r s' hr)⟩

theorem Safe.weaken {Inv' : σ → Prop} (h : Safe act Inv Q x s) (hInv : ∀ s', Inv s' → Inv' s') :
    Safe act Inv' Q x s := by
  induction x generalizing s with
  | ret a => exact ⟨hInv s h.1, h.2⟩
  | fail e => exact ⟨hInv s h.1, h.2⟩
  | call op k ih => exact ⟨hInv s h.1, fun r s' hr => ih r (h.2 r s' hr)⟩

theorem safe_only {P : I.Op → Prop} (hx : Only P x)
    (hstep : ∀ op r s s', P op → act op r s s' → Inv s → Inv s') (hs : Inv s) :
    Safe act Inv (fun _ s' => Inv s') x s := by
  induction x generalizing s with
  | ret a => exact ⟨hs, hs⟩
  | fail e => exact ⟨hs, hs⟩
  | call op k ih => exact ⟨hs, fun r s' hr => ih r (hx.2 r) (hstep op r s s' hx.1 hr hs)⟩

theorem Safe.at_moment {y : Proc I ε α} (h : Safe act Inv Q x s) (hreaches : Reaches act x s y s') :
    Inv s' := by
  induction hreaches with
  | now x s => exact h.now
  | later hact _ ih => exact ih (h.2 _ _ hact)

end Rules

/-! ## Operations that work -/

/-- An interface at work: each operation has one answer. -/
abbrev Handler (I : Interface) (σ : Type) : Type := (op : I.Op) → σ → I.Resp op × σ

/-- **The program, run to its end.** -/
def run (handler : Handler I σ) : Proc I ε α → σ → Except ε α × σ
  | .ret a, s => (.ok a, s)
  | .fail e, s => (.error e, s)
  | .call op k, s => run handler (k (handler op s).1) (handler op s).2

section Running

variable {handler : Handler I σ} {s s' : σ}

@[simp] theorem run_ret (a : α) : (ret a : Proc I ε α).run handler s = (.ok a, s) := rfl

@[simp] theorem run_fail (e : ε) : (fail e : Proc I ε α).run handler s = (.error e, s) := rfl

@[simp] theorem run_perform (op : I.Op) :
    (perform op : Proc I ε (I.Resp op)).run handler s =
      (.ok (handler op s).1, (handler op s).2) := rfl

theorem run_bind_ok {x : Proc I ε β} {f : β → Proc I ε α} {b : β}
    (h : x.run handler s = (.ok b, s')) :
    (x.bind f).run handler s = (f b).run handler s' := by
  induction x generalizing s with
  | ret c =>
    cases h
    rfl
  | fail e => cases h
  | call op k ih => exact ih (handler op s).1 h

theorem run_bind_error {x : Proc I ε β} {f : β → Proc I ε α} {e : ε}
    (h : x.run handler s = (.error e, s')) :
    (x.bind f).run handler s = (.error e, s') := by
  induction x generalizing s with
  | ret c => cases h
  | fail e' =>
    cases h
    rfl
  | call op k ih => exact ih (handler op s).1 h

theorem run_attempt {x : Proc I ε α} :
    x.attempt.run handler s = (.ok (x.run handler s).1, (x.run handler s).2) := by
  induction x generalizing s with
  | ret a => rfl
  | fail e => rfl
  | call op k ih => exact ih (handler op s).1

/-- What is left of the program after some operations, and the state then. -/
def after (handler : Handler I σ) : Nat → Proc I ε α → σ → Proc I ε α × σ
  | n + 1, .call op k, s => after handler n (k (handler op s).1) (handler op s).2
  | _, x, s => (x, s)

theorem reaches_after {act : Acts I σ} (hact : ∀ op s, act op (handler op s).1 s (handler op s).2)
    (n : Nat) (x : Proc I ε α) :
    Reaches act x s (after handler n x s).1 (after handler n x s).2 := by
  induction n generalizing x s with
  | zero =>
    unfold after
    exact .now x s
  | succ n ih =>
    cases x with
    | ret a => exact .now _ s
    | fail e => exact .now _ s
    | call op k => exact .later (hact op s) (ih (k (handler op s).1))

end Running

end Proc
