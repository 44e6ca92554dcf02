import Mathlib.Data.Set.Basic
import Mathlib.Tactic.Common

/-!
# Narrowing a region

A region of a forest is what lies under an allowed root and under no denied one. A region is within
another when each of its roots lies under one of the other's, and it denies again whatever of the
other's denials meets that root. Roots that cover one point lie under one another, so this
comparison of roots says what it should of all points, and it composes.
-/

namespace Narrowing

variable {α : Type}

/-- **A forest order**: what covers one point is comparable. -/
structure Forest (covers : α → α → Prop) : Prop where
  refl : ∀ a, covers a a
  trans : ∀ a b c, covers a b → covers b c → covers a c
  comparable : ∀ a b x, covers a x → covers b x → covers a b ∨ covers b a

/-- The roots that are allowed, and those that are not. -/
structure Region (α : Type) where
  allowed : Set α
  denied : Set α

variable (covers : α → α → Prop)

/-- A denied root covers the point. -/
def Region.Denies (r : Region α) (x : α) : Prop := ∃ d ∈ r.denied, covers d x

/-- The point is in the region. -/
def Region.Admits (r : Region α) (x : α) : Prop :=
  (∃ a ∈ r.allowed, covers a x) ∧ ¬ r.Denies covers x

/-- **A root is within a region** for a request that denies `request`: it lies under an allowed
root, and the smaller of it and any denied root it meets is denied again. -/
structure Region.Holds (request grant : Region α) (a : α) : Prop where
  under : ∃ parent ∈ grant.allowed, covers parent a
  above : ∀ d ∈ grant.denied, covers d a → request.Denies covers a
  inside : ∀ d ∈ grant.denied, covers a d → ¬ covers d a → request.Denies covers d

/-- Every root of the request is within the grant. -/
def Region.Within (request grant : Region α) : Prop :=
  ∀ a ∈ request.allowed, request.Holds covers grant a

variable {covers} {p q r : Region α}

theorem Region.Denies.under (h : Forest covers) {x y : α} (hx : r.Denies covers x)
    (hxy : covers x y) : r.Denies covers y := by
  obtain ⟨d, hd, hcovers⟩ := hx
  exact ⟨d, hd, h.trans d x y hcovers hxy⟩

theorem Region.Within.denies (h : Forest covers) (hwithin : p.Within covers q) {a x : α}
    (ha : a ∈ p.allowed) (hax : covers a x) (hx : q.Denies covers x) : p.Denies covers x := by
  obtain ⟨d, hd, hdx⟩ := hx
  obtain ⟨-, habove, hinside⟩ := hwithin a ha
  by_cases hda : covers d a
  · exact (habove d hd hda).under h hax
  · have had : covers a d := (h.comparable a d x hax hdx).resolve_right hda
    exact (hinside d hd had hda).under h hdx

/-- **Narrowing is sound**: the region admits no point that the wider one does not. -/
theorem Region.Within.admits (h : Forest covers) (hwithin : p.Within covers q) {x : α}
    (hx : p.Admits covers x) : q.Admits covers x := by
  obtain ⟨⟨a, ha, hcovers⟩, hfree⟩ := hx
  obtain ⟨⟨parent, hparent, hunder⟩, -, -⟩ := hwithin a ha
  exact ⟨⟨parent, hparent, h.trans parent a x hunder hcovers⟩,
    fun hdenied => hfree (hwithin.denies h ha hcovers hdenied)⟩

/-- **Narrowing composes.** -/
theorem Region.Within.trans (h : Forest covers) (hpq : p.Within covers q)
    (hqr : q.Within covers r) : p.Within covers r := by
  intro a ha
  obtain ⟨⟨b, hb, hba⟩, -, -⟩ := hpq a ha
  obtain ⟨⟨c, hc, hcb⟩, -, -⟩ := hqr b hb
  refine ⟨⟨c, hc, h.trans c b a hcb hba⟩, fun d hd hda => ?_, fun d hd had _ => ?_⟩
  · exact hpq.denies h ha (h.refl a) (hqr.denies h hb hba ⟨d, hd, hda⟩)
  · exact hpq.denies h ha had (hqr.denies h hb (h.trans b a d hba had) ⟨d, hd, h.refl d⟩)

end Narrowing
