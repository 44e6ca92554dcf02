import Mathlib.Data.List.Sort
import Mathlib.Data.List.Perm.Basic
import Mathlib.Data.List.Nodup

/-!
# Lists in any order

Two lists hold the same entries up to a relation when one is a permutation of a list whose
entries are related to the other's one by one. What such lists have in common is what a
permutation keeps; sorted by a key that no two entries share, they are equal entry by entry.
-/

namespace Unordered

variable {α β : Type}

/-- The entries of the lists are related one to one, in any order. -/
def Same (r : α → α → Prop) (xs ys : List α) : Prop :=
  ∃ zs, List.Forall₂ r xs zs ∧ zs.Perm ys

variable {r : α → α → Prop} {xs ys zs : List α}

theorem Same.refl (h : ∀ a, r a a) (xs : List α) : Same r xs xs :=
  ⟨xs, List.forall₂_same.mpr fun a _ => h a, List.Perm.refl xs⟩

theorem Same.of_map {f : α → α} (h : ∀ a, r a (f a)) (hperm : (xs.map f).Perm ys) :
    Same r xs ys := by
  refine ⟨xs.map f, ?_, hperm⟩
  rw [List.forall₂_map_right_iff]
  exact List.forall₂_same.mpr fun a _ => h a

theorem Same.symm (hr : ∀ a b, r a b → r b a) (h : Same r xs ys) : Same r ys xs := by
  obtain ⟨zs, hzs, hperm⟩ := h
  have hback : List.Forall₂ r zs xs := hzs.flip.imp fun a b hab => hr b a hab
  obtain ⟨ws, hws, hperm'⟩ := List.perm_comp_forall₂ hperm.symm hback
  exact ⟨ws, hws, hperm'⟩

theorem Same.trans (hr : ∀ a b c, r a b → r b c → r a c) (h : Same r xs ys)
    (h' : Same r ys zs) : Same r xs zs := by
  obtain ⟨us, hus, hperm⟩ := h
  obtain ⟨vs, hvs, hperm'⟩ := h'
  obtain ⟨ws, hws, hperm''⟩ := List.perm_comp_forall₂ hperm hvs
  refine ⟨ws, ?_, hperm''.trans hperm'⟩
  clear hperm hperm' hperm'' hvs
  induction hus generalizing ws with
  | nil => cases hws; exact .nil
  | cons hab _ ih =>
    rcases hws with _ | ⟨hbc, hrest⟩
    exact .cons (hr _ _ _ hab hbc) (ih _ hrest)

/-! ## What the lists have in common -/

theorem Same.exists_left (h : Same r xs ys) {b : α} (hb : b ∈ ys) : ∃ a ∈ xs, r a b := by
  obtain ⟨zs, hzs, hperm⟩ := h
  have hin := hperm.mem_iff.mpr hb
  clear hperm hb
  induction hzs with
  | nil => cases hin
  | cons hab _ ih =>
    rcases List.mem_cons.mp hin with rfl | hin
    · exact ⟨_, List.mem_cons_self, hab⟩
    · obtain ⟨a, ha, hr⟩ := ih hin
      exact ⟨a, List.mem_cons_of_mem _ ha, hr⟩

theorem Same.exists_right (h : Same r xs ys) {a : α} (ha : a ∈ xs) : ∃ b ∈ ys, r a b := by
  obtain ⟨zs, hzs, hperm⟩ := h
  suffices hin : ∃ b ∈ zs, r a b by
    obtain ⟨b, hb, hr⟩ := hin
    exact ⟨b, hperm.mem_iff.mp hb, hr⟩
  clear hperm
  induction hzs with
  | nil => cases ha
  | cons hab _ ih =>
    rcases List.mem_cons.mp ha with rfl | ha
    · exact ⟨_, List.mem_cons_self, hab⟩
    · obtain ⟨b, hb, hr⟩ := ih ha
      exact ⟨b, List.mem_cons_of_mem _ hb, hr⟩

theorem Same.forall_mem {p q : α → Prop} (h : Same r xs ys) (hpq : ∀ a b, r a b → p a → q b)
    (hp : ∀ a ∈ xs, p a) : ∀ b ∈ ys, q b := by
  intro b hb
  obtain ⟨a, ha, hab⟩ := h.exists_left hb
  exact hpq a b hab (hp a ha)

theorem Same.with_mem (h : Same r xs ys) : Same (fun a b => r a b ∧ a ∈ xs) xs ys := by
  obtain ⟨zs, hzs, hperm⟩ := h
  refine ⟨zs, ?_, hperm⟩
  clear hperm
  induction hzs with
  | nil => exact .nil
  | cons hab _ ih =>
    refine .cons ⟨hab, List.mem_cons_self⟩ (ih.imp fun a b hr => ?_)
    exact ⟨hr.1, List.mem_cons_of_mem _ hr.2⟩

theorem Same.length_eq (h : Same r xs ys) : xs.length = ys.length := by
  obtain ⟨zs, hzs, hperm⟩ := h
  exact hzs.length_eq.trans hperm.length_eq

theorem Same.map {f : α → β} (h : Same r xs ys) (hf : ∀ a b, r a b → f a = f b) :
    (xs.map f).Perm (ys.map f) := by
  obtain ⟨zs, hzs, hperm⟩ := h
  refine List.Perm.trans (List.Perm.of_eq ?_) (hperm.map f)
  clear hperm
  induction hzs with
  | nil => rfl
  | cons hab _ ih => rw [List.map_cons, List.map_cons, hf _ _ hab, ih]

theorem Same.filterMap {f : α → Option β} (h : Same r xs ys) (hf : ∀ a b, r a b → f a = f b) :
    (xs.filterMap f).Perm (ys.filterMap f) := by
  have hmap := (h.map hf).filterMap id
  rwa [List.filterMap_map, List.filterMap_map] at hmap

theorem Same.flatMap {f : α → List β} (h : Same r xs ys)
    (hf : ∀ a b, r a b → (f a).Perm (f b)) : (xs.flatMap f).Perm (ys.flatMap f) := by
  obtain ⟨zs, hzs, hperm⟩ := h
  refine List.Perm.trans ?_ (hperm.flatMap_right f)
  clear hperm
  induction hzs with
  | nil => exact List.Perm.refl _
  | cons hab _ ih =>
    rw [List.flatMap_cons, List.flatMap_cons]
    exact (hf _ _ hab).append ih

theorem Same.countP {p : α → Bool} (h : Same r xs ys) (hp : ∀ a b, r a b → p a = p b) :
    xs.countP p = ys.countP p := by
  have hcount := (h.map hp).countP_eq id
  rwa [List.countP_map, List.countP_map] at hcount

/-! ## Sorting -/

section Sorting

variable {le : α → α → Prop} [DecidableRel le] [IsTrans α le] [Std.Total le]

/-- **Permutations sort to one list** when the order tells their entries apart. -/
theorem insertionSort_perm (hperm : xs.Perm ys)
    (hanti : ∀ a ∈ xs, ∀ b ∈ xs, le a b → le b a → a = b) :
    xs.insertionSort le = ys.insertionSort le := by
  have hx := List.perm_insertionSort le xs
  have hy := List.perm_insertionSort le ys
  refine List.Perm.eq_of_pairwise (fun a b ha hb hab hba => ?_)
    (List.pairwise_insertionSort le xs) (List.pairwise_insertionSort le ys)
    (hx.trans (hperm.trans hy.symm))
  exact hanti a (hx.mem_iff.mp ha) b (hperm.mem_iff.mpr (hy.mem_iff.mp hb)) hab hba

/-- Sorted by a key of their own, related lists are equal up to what tells related entries
apart. -/
theorem Same.sort {f : α → α} (h : Same r xs ys) (hf : ∀ a b, r a b → f a = f b)
    (hle : ∀ a b, le a b ↔ le (f a) (f b))
    (hanti : ∀ a ∈ xs, ∀ b ∈ xs, le a b → le b a → a = b) :
    (xs.insertionSort le).map f = (ys.insertionSort le).map f := by
  have hmap := fun zs : List α => List.map_insertionSort le le f zs fun a _ b _ => hle a b
  rw [hmap, hmap]
  refine insertionSort_perm (h.map hf) ?_
  intro a ha b hb hab hba
  obtain ⟨a', ha', rfl⟩ := List.mem_map.mp ha
  obtain ⟨b', hb', rfl⟩ := List.mem_map.mp hb
  rw [hanti a' ha' b' hb' ((hle _ _).mpr hab) ((hle _ _).mpr hba)]

end Sorting

end Unordered
