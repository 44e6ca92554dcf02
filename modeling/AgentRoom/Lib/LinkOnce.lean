import AgentRoom.Lib.Table

/-!
# Directories whose files are linked once

A record is written to a temporary file and then linked under its name. The link
fails when the name is taken, so a record that is there is never replaced and
never removed. A host can fail, or stop, on either side of the link, and may leave
the temporary file behind.
-/

/-- How far the host goes through with one write. -/
structure LinkAttempt where
  /-- The temporary file is complete and was linked, unless the name is taken. -/
  linked : Bool
  /-- The directory was synced after the link. -/
  synced : Bool
  /-- The temporary file is gone again. -/
  removed : Bool

/-- The temporary files left behind, after one more write. -/
def LinkAttempt.pendingAfter (attempt : LinkAttempt) (pending : Nat) : Nat :=
  if attempt.removed then pending else pending + 1

namespace Table

variable {K V W : Type} [DecidableEq K]

/-- **Link a record under a free name**; whether the writer hears that it is stored. -/
def linkNew (t : Table K V) (k : K) (v : V) (attempt : LinkAttempt) : Table K V × Bool :=
  if attempt.linked ∧ t.get k = none then (t.put k v, attempt.synced) else (t, false)

/-- Every row of one table is a row of the other. -/
def Grows (t t' : Table K V) : Prop := ∀ k v, t.get k = some v → t'.get k = some v

theorem Grows.refl (t : Table K V) : Grows t t := fun _ _ h => h

variable {t : Table K V}

theorem Grows.trans {t' t'' : Table K V} (h : Grows t t') (h' : Grows t' t'') : Grows t t'' :=
  fun k v hk => h' k v (h k v hk)

theorem Grows.none {t t' : Table K V} (h : Grows t t') {k : K} (hk : t'.get k = none) :
    t.get k = none := by
  cases ht : t.get k with
  | none => rfl
  | some v =>
    rw [h k v ht] at hk
    cases hk

section LinkNew

variable {t : Table K V} {k : K} {v : V} {attempt : LinkAttempt}

/-- **What is linked stays.** -/
theorem linkNew_grows : Grows t (t.linkNew k v attempt).1 := by
  intro k' w hget
  unfold linkNew
  split
  · rename_i hfree
    have hne : k' ≠ k := by
      rintro rfl
      rw [hfree.2] at hget
      cases hget
    rw [get_put_ne t v hne]
    exact hget
  · exact hget

theorem of_linkNew {k' : K} {w : V} (h : (t.linkNew k v attempt).1.get k' = some w) :
    t.get k' = some w ∨ (k' = k ∧ w = v ∧ t.get k = none) := by
  unfold linkNew at h
  split at h
  · rename_i hfree
    rw [get_put] at h
    split at h
    · rename_i hk
      exact .inr ⟨hk, (Option.some.inj h).symm, hfree.2⟩
    · exact .inl h
  · exact .inl h

theorem linkNew_ne {k' : K} (h : k' ≠ k) : (t.linkNew k v attempt).1.get k' = t.get k' := by
  unfold linkNew
  split
  · exact get_put_ne t v h
  · rfl

/-- **A write that is reported stored** took a free name. -/
theorem linkNew_stored (h : (t.linkNew k v attempt).2 = true) :
    t.get k = none ∧ (t.linkNew k v attempt).1.get k = some v := by
  unfold linkNew at h ⊢
  split
  · rename_i hfree
    exact ⟨hfree.2, get_put_self t k v⟩
  · rename_i hother
    rw [if_neg hother] at h
    cases h

end LinkNew

/-! ## Counting -/

omit [DecidableEq K] in
theorem length_keys (t : Table K V) : t.keys.length = t.rows.length := by
  unfold keys rows AList.keys List.keys
  rw [List.length_map, List.length_map]

theorem length_le_of_keys {t' : Table K W} (h : ∀ k, (t.get k).isSome → (t'.get k).isSome) :
    t.rows.length ≤ t'.rows.length := by
  rw [← length_keys, ← length_keys]
  refine (List.subperm_of_subset t.nodup_keys fun k hk => ?_).length_le
  exact mem_keys.mpr (h k (mem_keys.mp hk))

theorem length_eq_of_keys {t' : Table K W} (h : ∀ k, (t.get k).isSome ↔ (t'.get k).isSome) :
    t.rows.length = t'.rows.length :=
  Nat.le_antisymm (length_le_of_keys fun k => (h k).mp) (length_le_of_keys fun k => (h k).mpr)

theorem length_put_new {k : K} (v : V) (h : t.get k = none) :
    (t.put k v).rows.length = t.rows.length + 1 := by
  have hnew : k ∉ t.entries := AList.lookup_eq_none.mp h
  unfold rows put
  rw [List.length_map, List.length_map, AList.entries_insert_of_notMem hnew]
  rfl

/-- **One write adds at most one name.** -/
theorem length_linkNew (t : Table K V) (k : K) (v : V) (attempt : LinkAttempt) :
    (t.linkNew k v attempt).1.rows.length ≤ t.rows.length + 1 := by
  unfold linkNew
  split
  · rename_i hfree
    exact (length_put_new v hfree.2).le
  · exact Nat.le_succ _

end Table
