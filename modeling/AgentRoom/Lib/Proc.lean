import Mathlib.Tactic.Common

/-!
# Programs as trees of operations

A program over an interface returns, fails, or performs one operation and goes on
with its response. What an operation does is left to the system that runs the
program, which may run other programs between any two operations.

A discipline follows a program with a phase, what the program knows so far: it
says which operations a phase allows, and which phases a response may lead to.
`Keeps D Q p x` says that `x`, started in phase `p`, performs allowed operations
only, whatever it is answered, and ends as `Q` says. A system proves what the
discipline promises once, for all programs that keep it.
-/

/-- The operations a program may perform, and what each is answered with. -/
structure Interface where
  Op : Type
  Resp : Op → Type

/-- **A program.** -/
inductive Proc (I : Interface) (ε α : Type) : Type
  | ret (a : α)
  | fail (e : ε)
  | call (op : I.Op) (k : I.Resp op → Proc I ε α)

/-- The operations of two interfaces. -/
def Interface.sum (I J : Interface) : Interface where
  Op := I.Op ⊕ J.Op
  Resp := Sum.elim I.Resp J.Resp

namespace Proc

variable {I : Interface} {ε α β φ : Type}

/-- Run `x`, then `f` on its result; a failure of `x` is the failure of both. -/
def bind : Proc I ε α → (α → Proc I ε β) → Proc I ε β
  | .ret a, f => f a
  | .fail e, _ => .fail e
  | .call op k, f => .call op fun r => (k r).bind f

instance : Monad (Proc I ε) where
  pure := ret
  bind := bind

/-- Run `x` and hand its failure over as a value. -/
def attempt : Proc I ε α → Proc I ε (Except ε α)
  | .ret a => .ret (.ok a)
  | .fail e => .ret (.error e)
  | .call op k => .call op fun r => (k r).attempt

/-- Perform one operation and return its response. -/
def perform (op : I.Op) : Proc I ε (I.Resp op) := .call op .ret

/-- Fail with the error, or return the value. -/
def ofExcept : Except ε α → Proc I ε α
  | .ok a => .ret a
  | .error e => .fail e

/-- Perform `f` on each element in order. -/
def forEach (f : α → Proc I ε Unit) : List α → Proc I ε Unit
  | [] => .ret ()
  | a :: as => (f a).bind fun _ => forEach f as

/-- Whether the program has ended. -/
def ended : Proc I ε α → Bool
  | .ret _ | .fail _ => true
  | .call _ _ => false

theorem bind_ret (x : Proc I ε α) : x.bind ret = x := by
  induction x with
  | ret a => rfl
  | fail e => rfl
  | call op k ih =>
    have : (fun r => (k r).bind ret) = k := funext ih
    rw [bind, this]

/-! ## Disciplines -/

/-- What a phase allows, and where a response leads. -/
structure Discipline (I : Interface) (φ : Type) where
  allowed : φ → I.Op → Prop
  next : φ → (op : I.Op) → I.Resp op → φ → Prop

/-- **The program keeps the discipline.** -/
def Keeps (D : Discipline I φ) (Q : φ → Except ε α → Prop) : φ → Proc I ε α → Prop
  | p, .ret a => Q p (.ok a)
  | p, .fail e => Q p (.error e)
  | p, .call op k => D.allowed p op ∧ ∀ r q, D.next p op r q → Keeps D Q q (k r)

section Rules

variable {D : Discipline I φ} {Q R : φ → Except ε α → Prop} {p q : φ}

theorem keeps_call {op : I.Op} {k : I.Resp op → Proc I ε α} (ha : D.allowed p op)
    (hk : ∀ r q, D.next p op r q → Keeps D Q q (k r)) : Keeps D Q p (.call op k) :=
  ⟨ha, hk⟩

theorem Keeps.mono {x : Proc I ε α} (h : Keeps D Q p x) (hQR : ∀ p r, Q p r → R p r) :
    Keeps D R p x := by
  induction x generalizing p with
  | ret a => exact hQR p _ h
  | fail e => exact hQR p _ h
  | call op k ih => exact ⟨h.1, fun r q hn => ih r (h.2 r q hn)⟩

theorem keeps_bind {x : Proc I ε β} {f : β → Proc I ε α} {S : φ → Except ε β → Prop}
    (hx : Keeps D S p x) (hf : ∀ q b, S q (.ok b) → Keeps D Q q (f b))
    (he : ∀ q e, S q (.error e) → Q q (.error e)) : Keeps D Q p (x.bind f) := by
  induction x generalizing p with
  | ret b => exact hf p b hx
  | fail e => exact he p e hx
  | call op k ih => exact ⟨hx.1, fun r q hn => ih r (hx.2 r q hn)⟩

theorem keeps_attempt {x : Proc I ε β} {S : φ → Except ε β → Prop}
    {T : φ → Except ε (Except ε β) → Prop} (hx : Keeps D S p x)
    (h : ∀ q r, S q r → T q (.ok r)) : Keeps D T p x.attempt := by
  induction x generalizing p with
  | ret b => exact h p _ hx
  | fail e => exact h p _ hx
  | call op k ih => exact ⟨hx.1, fun r q hn => ih r (hx.2 r q hn)⟩

/-- A loop keeps the discipline when each pass takes `J` from the elements before it to the
elements after it. -/
theorem keeps_forEach {f : β → Proc I ε Unit} {J : List β → φ → Prop}
    {S : φ → Except ε Unit → Prop} (bs : List β)
    (hf : ∀ b rest p, J (b :: rest) p → Keeps D (fun q r => match r with
      | .ok _ => J rest q
      | .error e => S q (.error e)) p (f b))
    (hJ : J bs p) (hS : ∀ q, J [] q → S q (.ok ())) : Keeps D S p (forEach f bs) := by
  induction bs generalizing p with
  | nil => exact hS p hJ
  | cons b bs ih => exact keeps_bind (hf b bs p hJ) (fun q _ hq => ih hq) (fun q e hq => hq)

/-- **A discipline seen from another.** What keeps `D` keeps `E`, when every phase of `D` stands
for phases of `E` that allow as much and are answered alike. -/
theorem Keeps.refine {ψ : Type} {E : Discipline I ψ} (Rel : φ → ψ → Prop)
    (hstep : ∀ p P op, Rel p P → D.allowed p op →
      E.allowed P op ∧ ∀ r P', E.next P op r P' → ∃ p', D.next p op r p' ∧ Rel p' P')
    {Q : φ → Except ε α → Prop} {S : ψ → Except ε α → Prop}
    (hend : ∀ p P r, Rel p P → Q p r → S P r)
    {x : Proc I ε α} {p : φ} {P : ψ} (hrel : Rel p P) (hx : Keeps D Q p x) : Keeps E S P x := by
  induction x generalizing p P with
  | ret a => exact hend p P _ hrel hx
  | fail e => exact hend p P _ hrel hx
  | call op k ih =>
    obtain ⟨hallowed, hnext⟩ := hstep p P op hrel hx.1
    refine ⟨hallowed, fun r P' hn => ?_⟩
    obtain ⟨p', hn', hrel'⟩ := hnext r P' hn
    exact ih r hrel' (hx.2 r p' hn')

end Rules

/-! ## Ends of programs that return -/

/-- `P` holds where the program returns; where it fails, nothing is said. -/
def Ends (P : φ → α → Prop) (p : φ) (r : Except ε α) : Prop := ∀ a, r = .ok a → P p a

section Ends

variable {D : Discipline I φ} {P R : φ → α → Prop} {p : φ}

theorem ends_ok {a : α} (h : P p a) : Ends P p (.ok a : Except ε α) := by
  intro b hb
  cases hb
  exact h

theorem ends_error {e : ε} : Ends P p (.error e : Except ε α) := nofun

theorem ends_ret {a : α} (h : P p a) : Keeps D (Ends P) p (.ret a : Proc I ε α) := ends_ok h

theorem ends_fail {e : ε} : Keeps D (Ends P) p (.fail e : Proc I ε α) := ends_error

theorem ends_ofExcept {r : Except ε α} (h : ∀ a, r = .ok a → P p a) :
    Keeps D (Ends P) p (ofExcept r : Proc I ε α) := by
  cases r with
  | ok a => exact ends_ret (h a rfl)
  | error e => exact ends_fail

theorem ends_mono {x : Proc I ε α} (h : Keeps D (Ends P) p x) (hPR : ∀ p a, P p a → R p a) :
    Keeps D (Ends R) p x :=
  h.mono fun p _ hr a ha => hPR p a (hr a ha)

theorem ends_bind {x : Proc I ε β} {f : β → Proc I ε α} {S : φ → β → Prop}
    (hx : Keeps D (Ends S) p x) (hf : ∀ q b, S q b → Keeps D (Ends P) q (f b)) :
    Keeps D (Ends P) p (x.bind f) :=
  keeps_bind hx (fun q b hq => hf q b (hq b rfl)) fun _ _ _ => ends_error

theorem ends_forEach {f : β → Proc I ε Unit} {J : List β → φ → Prop} (bs : List β)
    (hf : ∀ b rest p, J (b :: rest) p → Keeps D (Ends fun q _ => J rest q) p (f b))
    (hJ : J bs p) : Keeps D (Ends fun q _ => J [] q) p (forEach f bs) :=
  keeps_forEach bs
    (fun b rest p hp => (hf b rest p hp).mono fun q r hq => by
      cases r with
      | ok a => exact hq a rfl
      | error e => exact ends_error)
    hJ fun _ hq => ends_ok hq

end Ends

/-! ## Programs of certain operations -/

/-- The program performs operations that meet `P` only, whatever it is answered. -/
def Only (P : I.Op → Prop) : Proc I ε α → Prop
  | .ret _ | .fail _ => True
  | .call op k => P op ∧ ∀ r, Only P (k r)

section Only

variable {P : I.Op → Prop}

theorem only_bind {x : Proc I ε β} {f : β → Proc I ε α} (hx : Only P x)
    (hf : ∀ b, Only P (f b)) : Only P (x.bind f) := by
  induction x with
  | ret b => exact hf b
  | fail e => trivial
  | call op k ih => exact ⟨hx.1, fun r => ih r (hx.2 r)⟩

theorem only_ofExcept (r : Except ε α) : Only P (ofExcept r : Proc I ε α) := by
  cases r <;> trivial

theorem only_forEach {f : β → Proc I ε Unit} (bs : List β) (hf : ∀ b ∈ bs, Only P (f b)) :
    Only P (forEach f bs) := by
  induction bs with
  | nil => trivial
  | cons b bs ih =>
    exact only_bind (hf b (by simp)) fun _ => ih fun b' hb' => hf b' (by simp [hb'])

end Only

/-! ## Programs of one of two interfaces -/

/-- A program of the first of two interfaces. -/
def inl {J : Interface} : Proc I ε α → Proc (I.sum J) ε α
  | .ret a => .ret a
  | .fail e => .fail e
  | .call op k => .call (.inl op) fun r => (k r).inl

theorem Only.keeps_inl {J : Interface} {P : I.Op → Prop} {D : Discipline (I.sum J) φ}
    {Inv : φ → Prop}
    (hstep : ∀ p op, Inv p → P op →
      D.allowed p (.inl op) ∧ ∀ r q, D.next p (.inl op) r q → Inv q)
    {x : Proc I ε α} (hx : Only P x) {p : φ} (hp : Inv p) :
    Keeps D (fun q _ => Inv q) p (x.inl : Proc (I.sum J) ε α) := by
  induction x generalizing p with
  | ret a => exact hp
  | fail e => exact hp
  | call op k ih =>
    obtain ⟨hallowed, hnext⟩ := hstep p op hp hx.1
    exact ⟨hallowed, fun r q hn => ih r (hx.2 r) (hnext r q hn)⟩

end Proc
