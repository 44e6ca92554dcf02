import Mathlib.Tactic.Common

/-!
# Calls that check before they act

A call in `Except` throws at its first failing check. From a call that returned, the checks it
passed are read off one by one; a call whose checks are known to pass is unfolded past them.
-/

namespace Except

variable {ε α β : Type}

/-- `if (!condition) throw error`. -/
def require (condition : Prop) [Decidable condition] (error : ε) : Except ε Unit :=
  if condition then .ok () else .error error

/-- The value, or the error in its absence. -/
def demand (value : Option α) (error : ε) : Except ε α :=
  match value with
  | some a => .ok a
  | none => .error error

/-- What the call returned, or this error in place of its own. -/
def expect {ε' : Type} (x : Except ε' α) (error : ε) : Except ε α :=
  match x with
  | .ok a => .ok a
  | .error _ => .error error

section Returned

variable {x : Except ε α} {f : α → Except ε β} {g : Unit → Except ε β} {a : α} {b : β} {e : ε}
  {o : Option α} {c : Prop} [Decidable c]

@[simp] theorem require_eq_ok {u : Unit} : require c e = .ok u ↔ c := by
  unfold require
  split <;> simp [*]

@[simp] theorem demand_eq_ok : demand o e = .ok a ↔ o = some a := by
  cases o <;> simp [demand]

@[simp] theorem expect_eq_ok {ε' : Type} {y : Except ε' α} : expect y e = .ok a ↔ y = .ok a := by
  cases y <;> simp [expect]

theorem of_bind (h : (x >>= f) = .ok b) : ∃ a, x = .ok a ∧ f a = .ok b := by
  cases x with
  | error e => cases h
  | ok a => exact ⟨a, rfl, h⟩

theorem of_require (h : (require c e >>= g) = .ok b) : c ∧ g () = .ok b := by
  obtain ⟨_, hc, hg⟩ := of_bind h
  exact ⟨require_eq_ok.mp hc, hg⟩

theorem of_demand (h : (demand o e >>= f) = .ok b) : ∃ a, o = some a ∧ f a = .ok b := by
  obtain ⟨a, ha, hf⟩ := of_bind h
  exact ⟨a, demand_eq_ok.mp ha, hf⟩

theorem of_expect {ε' : Type} {y : Except ε' α} (h : (expect y e >>= f) = .ok b) :
    ∃ a, y = .ok a ∧ f a = .ok b := by
  obtain ⟨a, ha, hf⟩ := of_bind h
  exact ⟨a, expect_eq_ok.mp ha, hf⟩

theorem bind_of_ok (h : x = .ok a) : (x >>= f) = f a := by
  rw [h]
  rfl

theorem require_bind (h : c) : (require c e >>= g) = g () :=
  bind_of_ok (require_eq_ok.mpr h)

end Returned

/-! ## Failures -/

/-- The call fails, if it does, with an error that `P` holds of. -/
def FailsWith (P : ε → Prop) (x : Except ε α) : Prop := ∀ e, x = .error e → P e

namespace FailsWith

variable {P : ε → Prop} {x : Except ε α} {f : α → Except ε β} {e : ε}

theorem of_ok {a : α} (h : x = .ok a) : FailsWith P x := by
  rintro e he
  rw [h] at he
  cases he

theorem throw (h : P e) : FailsWith P (.error e : Except ε α) := by
  rintro _ ⟨⟩
  exact h

theorem require {c : Prop} [Decidable c] (h : P e) : FailsWith P (require c e) := by
  unfold Except.require
  split
  · exact of_ok rfl
  · exact throw h

theorem demand {o : Option α} (h : P e) : FailsWith P (demand o e) := by
  cases o with
  | none => exact throw h
  | some a => exact of_ok rfl

theorem bind (hx : FailsWith P x) (hf : ∀ a, x = .ok a → FailsWith P (f a)) :
    FailsWith P (x >>= f) := by
  cases x with
  | error e =>
    intro e' he
    have hsame : (Except.error e : Except ε β) = .error e' := he
    exact hx e' (congrArg Except.error (Except.error.inj hsame))
  | ok a => exact hf a rfl

theorem mapM {g : α → Except ε β} (h : ∀ a, FailsWith P (g a)) (as : List α) :
    FailsWith P (as.mapM g) := by
  induction as with
  | nil =>
    rw [List.mapM_nil]
    exact of_ok rfl
  | cons a as ih =>
    rw [List.mapM_cons]
    exact bind (h a) fun _ _ => bind ih fun _ _ => of_ok rfl

end FailsWith

end Except
