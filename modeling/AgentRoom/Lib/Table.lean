import Mathlib.Data.List.AList
import Mathlib.Data.List.Sort
import Mathlib.Data.Finset.Preimage
import Mathlib.Data.Fintype.EquivFin

/-!
# Keyed tables

A table is an association list without duplicate keys: the primary key is
unique by construction, and the rows can be listed.
-/

/-- **A table.** At most one row a key. -/
structure Table (K V : Type) where
  entries : AList (fun _ : K => V)

namespace Table

variable {K V : Type} [DecidableEq K]

/-- The table without rows. -/
def empty : Table K V := ⟨∅⟩

/-- The row stored under a key. -/
def get (t : Table K V) (k : K) : Option V := t.entries.lookup k

/-- Store a row under a key, in place of the one there. -/
def put (t : Table K V) (k : K) (v : V) : Table K V := ⟨t.entries.insert k v⟩

/-- Drop the row under a key. -/
def remove (t : Table K V) (k : K) : Table K V := ⟨t.entries.erase k⟩

/-- All rows. -/
def rows (t : Table K V) : List V := t.entries.entries.map (·.2)

@[simp] theorem get_empty (k : K) : (empty : Table K V).get k = none := rfl

@[simp] theorem get_put_self (t : Table K V) (k : K) (v : V) : (t.put k v).get k = some v :=
  AList.lookup_insert t.entries

variable {k : K}

theorem get_put_ne (t : Table K V) {k' : K} (v : V) (h : k' ≠ k) :
    (t.put k v).get k' = t.get k' :=
  AList.lookup_insert_ne h

theorem get_put (t : Table K V) (k k' : K) (v : V) :
    (t.put k v).get k' = if k' = k then some v else t.get k' := by
  split
  · next h => subst h; exact get_put_self t k' v
  · next h => exact get_put_ne t v h

@[simp] theorem get_remove_self (t : Table K V) (k : K) : (t.remove k).get k = none :=
  AList.lookup_erase k t.entries

theorem get_remove_ne (t : Table K V) {k' : K} (h : k' ≠ k) :
    (t.remove k).get k' = t.get k' :=
  AList.lookup_erase_ne h

theorem get_remove (t : Table K V) (k k' : K) :
    (t.remove k).get k' = if k' = k then none else t.get k' := by
  split
  · next h => subst h; exact get_remove_self t k'
  · next h => exact get_remove_ne t h

variable {t : Table K V}

theorem remove_of_none (h : t.get k = none) : t.remove k = t := by
  have hnot : k ∉ t.entries := AList.lookup_eq_none.mp h
  have hkeys : k ∉ t.entries.entries.keys := hnot
  unfold remove
  congr 1
  exact AList.ext (List.kerase_of_notMem_keys hkeys)

theorem mem_rows {v : V} : v ∈ t.rows ↔ ∃ k, t.get k = some v := by
  unfold rows get
  constructor
  · intro h
    obtain ⟨⟨k, w⟩, hm, rfl⟩ := List.mem_map.mp h
    exact ⟨k, AList.mem_lookup_iff.mpr hm⟩
  · rintro ⟨k, hk⟩
    exact List.mem_map.mpr ⟨⟨k, v⟩, AList.mem_lookup_iff.mp hk, rfl⟩

theorem nodup_rows_map {f : V → K} (h : ∀ k v, t.get k = some v → f v = k) :
    (t.rows.map f).Nodup := by
  have hkeys : t.rows.map f = t.entries.keys := by
    unfold rows AList.keys List.keys
    rw [List.map_map]
    refine List.map_congr_left fun entry hmem => ?_
    exact h entry.1 entry.2 (AList.mem_lookup_iff.mpr hmem)
  rw [hkeys]
  exact t.entries.nodupKeys

/-- The keys of the rows. -/
def keys (t : Table K V) : List K := t.entries.keys

omit [DecidableEq K] in
theorem nodup_keys (t : Table K V) : t.keys.Nodup := t.entries.nodupKeys

theorem mem_keys {t : Table K V} {k : K} : k ∈ t.keys ↔ (t.get k).isSome := by
  rw [get, AList.lookup_isSome]
  exact AList.mem_keys.symm

theorem exists_unused (t : Table K V) {f : Nat → K} (hf : Function.Injective f) :
    ∃ n, t.get (f n) = none := by
  obtain ⟨n, hn⟩ := Infinite.exists_notMem_finset (t.keys.toFinset.preimage f hf.injOn)
  refine ⟨n, ?_⟩
  rw [Finset.mem_preimage, List.mem_toFinset, mem_keys] at hn
  simpa using hn

/-- A function with finitely many values is a table. -/
theorem exists_of_keys (f : K → Option V) (ks : List K) (h : ∀ k, (f k).isSome → k ∈ ks) :
    ∃ t : Table K V, ∀ k, t.get k = f k := by
  induction ks generalizing f with
  | nil =>
    refine ⟨.empty, fun k => ?_⟩
    rcases hk : f k with _ | v
    · rfl
    · exact absurd (h k (by rw [hk]; rfl)) (by simp)
  | cons a ks ih =>
    obtain ⟨t, ht⟩ := ih (Function.update f a none) fun k hk => by
      rw [Function.update_apply] at hk
      split at hk
      · cases hk
      · next hne => exact (List.mem_cons.mp (h k hk)).resolve_left hne
    rcases ha : f a with _ | v
    · refine ⟨t, fun k => ?_⟩
      rw [ht, ← ha, Function.update_eq_self]
    · refine ⟨t.put a v, fun k => ?_⟩
      rw [get_put, ht, Function.update_apply]
      split
      · next hk => rw [hk, ha]
      · rfl

/-! ## Changing every row -/

/-- Every row put through `f`. -/
def mapRows {W : Type} (f : V → W) (t : Table K V) : Table K W where
  entries :=
    ⟨t.entries.entries.map fun e => ⟨e.1, f e.2⟩, by
      have hkeys := t.entries.nodupKeys
      unfold List.NodupKeys List.keys at hkeys ⊢
      rwa [List.map_map]⟩

theorem get_mapRows {W : Type} (f : V → W) (t : Table K V) (k : K) :
    (t.mapRows f).get k = (t.get k).map f :=
  @List.dlookup_map₂ K _ (fun _ => V) (fun _ => W) t.entries.entries (fun _ => f) k

/-! ## Listing in order -/

/-- Lexicographic comparison of sort keys. -/
def keyLe : List Nat → List Nat → Bool
  | [], _ => true
  | _ :: _, [] => false
  | a :: as, b :: bs => a < b || (a = b && keyLe as bs)

/-- `ORDER BY` the columns `key` lists. -/
def orderBy {V : Type} (key : V → List Nat) (rows : List V) : List V :=
  rows.insertionSort fun a b => keyLe (key a) (key b) = true

@[simp] theorem mem_orderBy {V : Type} {key : V → List Nat} {rows : List V} {v : V} :
    v ∈ orderBy key rows ↔ v ∈ rows := by
  unfold orderBy
  exact List.mem_insertionSort _

theorem orderBy_perm {V : Type} (key : V → List Nat) (rows : List V) :
    (orderBy key rows).Perm rows :=
  List.perm_insertionSort _ _

end Table
