import Mathlib.Data.List.Forall2

/-!
# Passes over a list that can fail

`mapM` in `Except` stops at the first error. It succeeds exactly when every element
does, and then the results stand in the order of the elements.
-/

namespace Except

variable {ε α β : Type} {f : α → Except ε β} {l : List α} {r : List β}

/-- **A pass that succeeds** is one success an element. -/
theorem mapM_iff :
    l.mapM f = .ok r ↔ List.Forall₂ (fun a b => f a = .ok b) l r := by
  induction l generalizing r with
  | nil =>
    constructor
    · intro h
      cases h
      exact .nil
    · intro h
      cases h
      rfl
  | cons a l ih =>
    rw [List.mapM_cons]
    constructor
    · intro h
      cases hfirst : f a with
      | error e =>
        rw [hfirst] at h
        cases h
      | ok b =>
        rw [hfirst] at h
        cases hrest : l.mapM f with
        | error e =>
          rw [hrest] at h
          cases h
        | ok bs =>
          rw [hrest] at h
          cases h
          exact .cons hfirst (ih.mp hrest)
    · intro h
      cases h with
      | cons hfirst hrest =>
        rw [hfirst, ih.mpr hrest]
        rfl

theorem exists_mapM (h : ∀ a ∈ l, ∃ b, f a = .ok b) :
    ∃ r, l.mapM f = .ok r := by
  induction l with
  | nil => exact ⟨[], rfl⟩
  | cons a l ih =>
    obtain ⟨b, hb⟩ := h a List.mem_cons_self
    obtain ⟨bs, hbs⟩ := ih fun a' hmem => h a' (List.mem_cons_of_mem a hmem)
    rw [mapM_iff] at hbs
    refine ⟨b :: bs, ?_⟩
    rw [mapM_iff]
    exact .cons hb hbs

theorem length_of_mapM (h : l.mapM f = .ok r) :
    r.length = l.length := by
  rw [mapM_iff] at h
  exact h.length_eq.symm

theorem exists_of_mem_mapM (h : l.mapM f = .ok r) {b : β} (hb : b ∈ r) : ∃ a ∈ l, f a = .ok b := by
  rw [mapM_iff] at h
  induction h with
  | nil => cases hb
  | cons hfirst hrest ih =>
    rcases List.mem_cons.mp hb with rfl | hb
    · exact ⟨_, List.mem_cons_self, hfirst⟩
    · obtain ⟨a, hmem, ha⟩ := ih hb
      exact ⟨a, List.mem_cons_of_mem _ hmem, ha⟩

theorem exists_result_of_mapM (h : l.mapM f = .ok r) {a : α} (ha : a ∈ l) :
    ∃ b ∈ r, f a = .ok b := by
  rw [mapM_iff] at h
  induction h with
  | nil => cases ha
  | cons hfirst hrest ih =>
    rcases List.mem_cons.mp ha with rfl | ha
    · exact ⟨_, List.mem_cons_self, hfirst⟩
    · obtain ⟨b, hmem, hb⟩ := ih ha
      exact ⟨b, List.mem_cons_of_mem _ hmem, hb⟩

theorem forM_iff {g : α → Except ε Unit} :
    l.forM g = .ok () ↔ ∀ a ∈ l, g a = .ok () := by
  induction l with
  | nil => exact ⟨fun _ => nofun, fun _ => rfl⟩
  | cons a l ih =>
    rw [List.forall_mem_cons]
    show (g a >>= fun _ => l.forM g) = .ok () ↔ _
    cases hfirst : g a with
    | error e => exact ⟨nofun, nofun⟩
    | ok u => exact ih.trans ⟨fun h => ⟨rfl, h⟩, fun h => h.2⟩

end Except
