import Mathlib.Logic.Relation

/-!
# Database programs

A program that reads and writes a state and may throw. What it wrote before a
throw stays written, unless the write ran inside `immediate`, which restores the
state it started from.

`Along r x s` says that running `x` from `s` moves the state along steps of `r`
only, whether `x` returns or throws. It is closed under every way of composing
programs, so a relation proved of the atomic writes holds of every program built
from them.
-/

/-- **A database program.** A function from the state to a result or a thrown error, and the
state it leaves. -/
def Tx (σ ε α : Type) : Type := σ → Except ε α × σ

namespace Tx

variable {σ ε α β : Type}

instance : Monad (Tx σ ε) where
  pure a := fun s => (.ok a, s)
  bind x f := fun s => match x s with
    | (.ok a, s') => f a s'
    | (.error e, s') => (.error e, s')

instance : MonadExceptOf ε (Tx σ ε) where
  throw e := fun s => (.error e, s)
  tryCatch x h := fun s => match x s with
    | (.ok a, s') => (.ok a, s')
    | (.error e, s') => h e s'

instance : MonadStateOf σ (Tx σ ε) where
  get := fun s => (.ok s, s)
  set s := fun _ => (.ok (), s)
  modifyGet f := fun s => (.ok (f s).1, (f s).2)

/-- Run `x` as one transaction: a throw undoes everything `x` wrote. -/
def immediate (x : Tx σ ε α) : Tx σ ε α := fun s =>
  match x s with
  | (.ok a, s') => (.ok a, s')
  | (.error e, _) => (.error e, s)

/-- Run `f` on each element in order, collecting the results, until one throws. -/
def forEach (f : α → Tx σ ε β) : List α → Tx σ ε (List β)
  | [] => pure []
  | a :: as => do
      let b ← f a
      let bs ← forEach f as
      pure (b :: bs)

/-- Run `x` if `c` holds. -/
def when (c : Prop) [Decidable c] (x : Tx σ ε Unit) : Tx σ ε Unit :=
  if c then x else pure ()

/-- Run `f` on the value, if there is one. -/
def whenSome (o : Option α) (f : α → Tx σ ε Unit) : Tx σ ε Unit :=
  match o with
  | some a => f a
  | none => pure ()

/-- Throw unless the condition holds. -/
def require (c : Prop) [Decidable c] (e : ε) : Tx σ ε Unit := if c then pure () else throw e

/-- The value, or a throw. -/
def demand (o : Option α) (e : ε) : Tx σ ε α :=
  match o with
  | some a => pure a
  | none => throw e

/-! ## Running -/

@[simp] theorem pure_apply (a : α) (s : σ) : (pure a : Tx σ ε α) s = (.ok a, s) := rfl

@[simp] theorem throw_apply (e : ε) (s : σ) : (throw e : Tx σ ε α) s = (.error e, s) := rfl

@[simp] theorem get_apply (s : σ) : (get : Tx σ ε σ) s = (.ok s, s) := rfl

@[simp] theorem modify_apply (f : σ → σ) (s : σ) :
    (modify f : Tx σ ε PUnit) s = (.ok ⟨⟩, f s) := rfl

theorem bind_apply (x : Tx σ ε α) (f : α → Tx σ ε β) (s : σ) :
    (x >>= f) s = match x s with
      | (.ok a, s') => f a s'
      | (.error e, s') => (.error e, s') := rfl

variable {a : α}

theorem bind_ok {x : Tx σ ε α} {f : α → Tx σ ε β} {s s' : σ} (h : x s = (.ok a, s')) :
    (x >>= f) s = f a s' := by
  simp only [bind_apply, h]

variable {x : Tx σ ε α} {f : α → Tx σ ε β} {s s' : σ} {e : ε}

theorem bind_error (h : x s = (.error e, s')) : (x >>= f) s = (.error e, s') := by
  simp only [bind_apply, h]

variable {b : β}

theorem ok_of_bind (h : (x >>= f) s = (.ok b, s')) :
    ∃ a s₁, x s = (.ok a, s₁) ∧ f a s₁ = (.ok b, s') := by
  rcases hx : x s with ⟨e | a, s₁⟩
  · rw [bind_error hx] at h
    cases h
  · rw [bind_ok hx] at h
    exact ⟨a, s₁, rfl, h⟩

theorem of_require {c : Prop} [Decidable c] {f : Unit → Tx σ ε β}
    (h : (require c e >>= f) s = (.ok b, s')) : c ∧ f () s = (.ok b, s') := by
  unfold require at h
  split at h
  · next hc => exact ⟨hc, h⟩
  · cases h

theorem of_demand {o : Option α} (h : (demand o e >>= f) s = (.ok b, s')) :
    ∃ a, o = some a ∧ f a s = (.ok b, s') := by
  cases o with
  | none => cases h
  | some a => exact ⟨a, rfl, h⟩

@[simp] theorem get_bind (f : σ → Tx σ ε β) (s : σ) : (get >>= f) s = f s s := rfl

@[simp] theorem modify_bind (g : σ → σ) (f : PUnit → Tx σ ε β) (s : σ) :
    ((modify g : Tx σ ε PUnit) >>= f) s = f ⟨⟩ (g s) := rfl

@[simp] theorem pure_bind_apply (a : α) (f : α → Tx σ ε β) (s : σ) :
    ((pure a : Tx σ ε α) >>= f) s = f a s := rfl

theorem immediate_ok (h : x s = (.ok a, s')) :
    immediate x s = (.ok a, s') := by
  simp only [immediate, h]

theorem immediate_error (h : x s = (.error e, s')) :
    immediate x s = (.error e, s) := by
  simp only [immediate, h]

/-- A transaction leaves the state it started from, or the one its program left when it
returned. -/
theorem immediate_cases (x : Tx σ ε α) (s : σ) :
    (∃ e, immediate x s = (.error e, s)) ∨
    (∃ a s', x s = (.ok a, s') ∧ immediate x s = (.ok a, s')) := by
  rcases hx : x s with ⟨e | a, s'⟩
  · exact .inl ⟨e, immediate_error hx⟩
  · exact .inr ⟨a, s', rfl, immediate_ok hx⟩

theorem state_of_immediate_error (h : immediate x s = (.error e, s')) : s' = s := by
  rcases immediate_cases x s with ⟨e', he⟩ | ⟨a, s₁, -, ha⟩
  · rw [he] at h
    cases h
    rfl
  · rw [ha] at h
    cases h

theorem immediate_returns (h : ∃ a s', x s = (.ok a, s')) :
    ∃ a s', immediate x s = (.ok a, s') := by
  obtain ⟨a, s', ha⟩ := h
  exact ⟨a, s', immediate_ok ha⟩

theorem ok_of_immediate (h : immediate x s = (.ok a, s')) : x s = (.ok a, s') := by
  rcases immediate_cases x s with ⟨e, he⟩ | ⟨b, s₁, hx, hb⟩
  · rw [he] at h
    cases h
  · rw [hb] at h
    cases h
    exact hx

theorem forEach_ok {J : List α → σ → Prop} {f : α → Tx σ ε β}
    (hf : ∀ a rest s b s', J (a :: rest) s → f a s = (.ok b, s') → J rest s') {as : List α}
    {s s' : σ} {bs : List β} (hJ : J as s) (h : forEach f as s = (.ok bs, s')) : J [] s' := by
  induction as generalizing s bs with
  | nil =>
    cases h
    exact hJ
  | cons a as ih =>
    obtain ⟨b, s₁, ha, hrest⟩ := ok_of_bind h
    obtain ⟨bs', s₂, has, hend⟩ := ok_of_bind hrest
    cases hend
    exact ih (hf a as s b s₁ hJ ha) has

theorem forEach_returns {J : List α → σ → Prop}
    (hf : ∀ a rest s, J (a :: rest) s → ∃ b s', f a s = (.ok b, s') ∧ J rest s') {as : List α}
    (hJ : J as s) : ∃ bs s', forEach f as s = (.ok bs, s') ∧ J [] s' := by
  induction as generalizing s with
  | nil => exact ⟨[], s, rfl, hJ⟩
  | cons a as ih =>
    obtain ⟨b, s₁, ha, hJ₁⟩ := hf a as s hJ
    obtain ⟨bs, s₂, has, hJ₂⟩ := ih hJ₁
    refine ⟨b :: bs, s₂, ?_, hJ₂⟩
    unfold forEach
    rw [bind_ok ha, bind_ok has]
    rfl

/-! ## Moving along a relation -/

/-- **`x` moves along `r` from `s`.** Whatever `x` returns or throws, the state it leaves is
reached from `s` by steps of `r`. -/
def Along (r : σ → σ → Prop) (x : Tx σ ε α) (s : σ) : Prop :=
  Relation.ReflTransGen r s (x s).2

section Rules

variable {r q : σ → σ → Prop} {x : Tx σ ε α} {f : α → Tx σ ε β} {s : σ}

theorem along_pure (a : α) : Along r (pure a : Tx σ ε α) s := .refl

theorem along_throw (e : ε) : Along r (throw e : Tx σ ε α) s := .refl

theorem along_get : Along r (get : Tx σ ε σ) s := .refl

theorem along_modify {g : σ → σ} (h : r s (g s)) : Along r (modify g : Tx σ ε PUnit) s :=
  .single h

theorem along_bind (hx : Along r x s)
    (hf : ∀ a s', x s = (.ok a, s') → Along r (f a) s') : Along r (x >>= f) s := by
  unfold Along at *
  rcases hxs : x s with ⟨a | a, s'⟩
  · rw [bind_error hxs]
    simpa [hxs] using hx
  · rw [bind_ok hxs]
    exact .trans (by simpa [hxs] using hx) (hf a s' hxs)

theorem along_bind_get {f : σ → Tx σ ε β} (hf : Along r (f s) s) :
    Along r (get >>= f) s := hf

theorem along_immediate (hx : Along r x s) : Along r (immediate x) s := by
  unfold Along at *
  rcases hxs : x s with ⟨a | a, s'⟩
  · rw [immediate_error hxs]
  · rw [immediate_ok hxs]
    simpa [hxs] using hx

theorem along_tryCatch {h : ε → Tx σ ε α} (hx : Along r x s)
    (hh : ∀ e s', x s = (.error e, s') → Along r (h e) s') : Along r (tryCatch x h) s := by
  unfold Along at *
  rcases hxs : x s with ⟨e | a, s'⟩
  · have hcaught : (tryCatch x h) s = h e s' := by
      simp only [tryCatch, tryCatchThe, MonadExceptOf.tryCatch, hxs]
    rw [hcaught]
    exact .trans (by simpa [hxs] using hx) (hh e s' hxs)
  · have hreturned : (tryCatch x h) s = (.ok a, s') := by
      simp only [tryCatch, tryCatchThe, MonadExceptOf.tryCatch, hxs]
    rw [hreturned]
    simpa [hxs] using hx

theorem along_when {c : Prop} [Decidable c] {x : Tx σ ε Unit} (h : c → Along r x s) :
    Along r (when c x) s := by
  unfold when
  split
  · next hc => exact h hc
  · exact along_pure ()

theorem along_whenSome {o : Option α} {f : α → Tx σ ε Unit}
    (h : ∀ a, o = some a → Along r (f a) s) : Along r (whenSome o f) s := by
  cases o with
  | none => exact along_pure ()
  | some a => exact h a rfl

theorem Along.mono (hrq : ∀ a b, r a b → q a b) (hx : Along r x s) : Along q x s :=
  Relation.ReflTransGen.mono hrq _ _ hx

theorem Along.preserves {I : σ → Prop} (hI : ∀ a b, r a b → I a → I b) (hx : Along r x s)
    (hs : I s) : I (x s).2 := by
  unfold Along at hx
  generalize (x s).2 = s' at hx ⊢
  induction hx with
  | refl => exact hs
  | tail _ hab ih => exact hI _ _ hab ih

/-- A loop moves along `r` when each pass does, from whatever state the invariant allows it to
start in. -/
theorem along_forEach (I : σ → Prop) (hI : ∀ a b, r a b → I a → I b) (as : List α)
    (h : ∀ a ∈ as, ∀ s, I s → Along r (f a) s) (hs : I s) : Along r (forEach f as) s := by
  induction as generalizing s with
  | nil => exact along_pure []
  | cons a as ih =>
    have ha := h a (by simp) s hs
    refine along_bind ha fun b s' hb => ?_
    have hs' : I s' := by simpa [hb] using ha.preserves hI hs
    refine along_bind (ih (fun a ha => h a (by simp [ha])) hs') fun bs s'' _ => ?_
    exact along_pure (b :: bs)

theorem Along.related {R : σ → σ → Prop} (hrefl : ∀ a, R a a)
    (htrans : ∀ a b c, R a b → R b c → R a c) (hR : ∀ a b, r a b → R a b)
    (hx : Along r x s) : R s (x s).2 := by
  unfold Along at hx
  generalize (x s).2 = s' at hx ⊢
  induction hx with
  | refl => exact hrefl s
  | tail _ hab ih => exact htrans _ _ _ ih (hR _ _ hab)

end Rules

end Tx
