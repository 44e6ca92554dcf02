import AgentRoom.Lib.Checks
import AgentRoom.Lib.Each
import AgentRoom.Lib.LinkOnce

/-!
# Registries of records that are revoked once

A record stands in a file of its own, and what revokes it in a second one. Both are written once,
and each write is read back before it is answered for.

Reading an id looks at its own two files only. What was read back once can therefore be read from
then on, and a registry whose every write was read back can be listed whole.
-/

/-- The records of a registry, each with what revokes it. -/
abbrev Registry (K R V : Type) := Table K (R × Option V)

namespace Registry

variable {K R V W ε : Type} [DecidableEq K]

/-- How one id's files are read: the record, and what revokes it. -/
structure Reader (K R V W ε : Type) where
  view : K → R → Option V → Except ε W
  /-- The error for an id that has no record. -/
  absent : ε

/-- A record that was read, with its view. -/
structure Found (R W : Type) where
  record : R
  view : W

/-- Read an id that may have no record. -/
def lookup (reader : Reader K R V W ε) (t : Registry K R V) (k : K) :
    Except ε (Option (Found R W)) :=
  match Table.get t k with
  | none => .ok none
  | some row => (reader.view k row.1 row.2).map fun view => some ⟨row.1, view⟩

/-- Read an id. -/
def find (reader : Reader K R V W ε) (t : Registry K R V) (k : K) : Except ε (Found R W) := do
  let found ← lookup reader t k
  Except.demand found reader.absent

/-- The view of an id. -/
def get (reader : Reader K R V W ε) (t : Registry K R V) (k : K) : Except ε W :=
  (find reader t k).map (·.view)

/-- Write a record, or a record with what revokes it, and read it back. -/
def write (reader : Reader K R V W ε) (t : Registry K R V) (k : K) (r : R) (v : Option V) :
    Except ε (W × Registry K R V) := do
  let view ← get reader (t.put k (r, v)) k
  pure (view, t.put k (r, v))

/-- The ids in the order of their names. -/
def ids [LinearOrder K] (t : Registry K R V) : List K := t.keys.insertionSort (· ≤ ·)

/-- Read every id. -/
def list [LinearOrder K] (reader : Reader K R V W ε) (t : Registry K R V) : Except ε (List W) :=
  (ids t).mapM (get reader t)

/-- The files of a registry. -/
def files (t : Registry K R V) : Nat := t.rows.length + t.rows.countP (·.2.isSome)

/-- **Every id can be read.** -/
def Readable (reader : Reader K R V W ε) (t : Registry K R V) : Prop :=
  ∀ k row, Table.get t k = some row → ∃ w, reader.view k row.1 row.2 = .ok w

section Facts

variable {reader : Reader K R V W ε} {t t' : Registry K R V} {k : K} {r : R} {v : Option V} {w : W}

theorem readable_empty : Readable reader (Table.empty : Registry K R V) := nofun

/-- A lookup that returned found nothing, or read what is there. -/
theorem lookup_ok {found : Option (Found R W)} (h : lookup reader t k = .ok found) :
    (found = none ∧ Table.get t k = none) ∨
      ∃ row view, Table.get t k = some row ∧ reader.view k row.1 row.2 = .ok view ∧
        found = some ⟨row.1, view⟩ := by
  unfold lookup at h
  cases hrow : Table.get t k with
  | none =>
    simp only [hrow] at h
    cases h
    exact .inl ⟨rfl, rfl⟩
  | some row =>
    simp only [hrow] at h
    cases hview : reader.view k row.1 row.2 with
    | error e => rw [hview] at h; cases h
    | ok view =>
      rw [hview] at h
      cases h
      exact .inr ⟨row, view, rfl, hview, rfl⟩

variable {row : R × Option V}

theorem lookup_of_get (hrow : Table.get t k = some row)
    (hview : reader.view k row.1 row.2 = .ok w) :
    lookup reader t k = .ok (some ⟨row.1, w⟩) := by
  simp only [lookup, hrow, hview]
  rfl

theorem find_ok {found : Found R W} (h : find reader t k = .ok found) :
    ∃ v, Table.get t k = some (found.record, v) ∧
      reader.view k found.record v = .ok found.view := by
  obtain ⟨looked, hlooked, hfound⟩ := Except.of_bind h
  rw [Except.demand_eq_ok] at hfound
  subst hfound
  rcases lookup_ok hlooked with ⟨hnone, -⟩ | ⟨row, view, hrow, hview, hsame⟩
  · cases hnone
  · cases hsame
    exact ⟨row.2, hrow, hview⟩

theorem find_of_get (hrow : Table.get t k = some row) (hview : reader.view k row.1 row.2 = .ok w) :
    find reader t k = .ok ⟨row.1, w⟩ := by
  unfold find
  rw [Except.bind_of_ok (lookup_of_get hrow hview)]
  rfl

theorem get_eq_ok : get reader t k = .ok w ↔
    ∃ row, Table.get t k = some row ∧ reader.view k row.1 row.2 = .ok w := by
  unfold get
  constructor
  · intro h
    cases hfind : find reader t k with
    | error e => rw [hfind] at h; cases h
    | ok found =>
      rw [hfind] at h
      cases h
      obtain ⟨v, hrow, hview⟩ := find_ok hfind
      exact ⟨_, hrow, hview⟩
  · rintro ⟨row, hrow, hview⟩
    rw [find_of_get hrow hview]
    rfl

theorem write_ok (h : write reader t k r v = .ok (w, t')) :
    reader.view k r v = .ok w ∧ t' = t.put k (r, v) := by
  obtain ⟨view, hview, h⟩ := Except.of_bind h
  cases h
  obtain ⟨row, hrow, hread⟩ := get_eq_ok.mp hview
  rw [Table.get_put_self] at hrow
  cases hrow
  exact ⟨hread, rfl⟩

theorem write_of_view (h : reader.view k r v = .ok w) :
    write reader t k r v = .ok (w, t.put k (r, v)) := by
  have hget : get reader (t.put k (r, v)) k = .ok w :=
    get_eq_ok.mpr ⟨(r, v), Table.get_put_self t k (r, v), h⟩
  unfold write
  rw [Except.bind_of_ok hget]
  rfl

/-- **What was read back can be read from then on.** -/
theorem Readable.write (hread : Readable reader t) (h : write reader t k r v = .ok (w, t')) :
    Readable reader t' := by
  obtain ⟨hview, rfl⟩ := write_ok h
  intro k' row hrow
  rw [Table.get_put] at hrow
  split at hrow
  · rename_i hk
    cases hrow
    exact ⟨w, hk ▸ hview⟩
  · exact hread k' row hrow

theorem length_write_new (hfree : Table.get t k = none) (h : write reader t k r v = .ok (w, t')) :
    t'.rows.length = t.rows.length + 1 := by
  obtain ⟨-, rfl⟩ := write_ok h
  exact Table.length_put_new (r, v) hfree

theorem length_write_again (htaken : Table.get t k = some row)
    (h : write reader t k r v = .ok (w, t')) : t'.rows.length = t.rows.length := by
  obtain ⟨-, rfl⟩ := write_ok h
  refine Table.length_eq_of_keys fun k' => ?_
  rw [Table.get_put]
  split
  · rename_i hk
    rw [hk, htaken]
    simp
  · exact Iff.rfl

/-- A registry that can be read and has at most so many records. -/
structure Bounded (reader : Reader K R V W ε) (n : Nat) (t : Registry K R V) : Prop where
  readable : Readable reader t
  bounded : t.rows.length ≤ n

theorem bounded_empty (n : Nat) : Bounded reader n (Table.empty : Registry K R V) :=
  ⟨readable_empty, Nat.zero_le n⟩

theorem Bounded.new {n : Nat} (h : Bounded reader n t) (hroom : t.rows.length < n)
    (hfree : Table.get t k = none) (hwrite : write reader t k r v = .ok (w, t')) :
    Bounded reader n t' where
  readable := h.readable.write hwrite
  bounded := by
    rw [length_write_new hfree hwrite]
    exact hroom

theorem Bounded.again {n : Nat} (h : Bounded reader n t) (htaken : Table.get t k = some row)
    (hwrite : write reader t k r v = .ok (w, t')) :
    Bounded reader n t' where
  readable := h.readable.write hwrite
  bounded := by
    rw [length_write_again htaken hwrite]
    exact h.bounded

omit [DecidableEq K] in
theorem files_le (t : Registry K R V) : files t ≤ 2 * t.rows.length := by
  have h : t.rows.countP (·.2.isSome) ≤ t.rows.length := List.countP_le_length
  unfold files
  omega

section List

variable [LinearOrder K]

theorem mem_ids : k ∈ ids t ↔ (Table.get t k).isSome := by
  unfold ids
  rw [List.mem_insertionSort, Table.mem_keys]

omit [DecidableEq K] in
theorem nodup_ids : (ids t).Nodup :=
  (List.perm_insertionSort (· ≤ ·) _).nodup_iff.mpr t.nodup_keys

omit [DecidableEq K] in
theorem length_ids : (ids t).length = t.rows.length := by
  unfold ids
  rw [List.length_insertionSort, Table.length_keys]

/-- **A readable registry can be listed.** -/
theorem exists_list (h : Readable reader t) : ∃ ws, list reader t = .ok ws := by
  refine Except.exists_mapM fun k hk => ?_
  obtain ⟨row, hrow⟩ := Option.isSome_iff_exists.mp (mem_ids.mp hk)
  obtain ⟨w, hw⟩ := h k row hrow
  exact ⟨w, get_eq_ok.mpr ⟨row, hrow, hw⟩⟩

theorem list_names (name : W → K) {ws : List W} (h : list reader t = .ok ws)
    (hname : ∀ k r v w, reader.view k r v = .ok w → name w = k) : ws.map name = ids t := by
  have hall := Except.mapM_iff.mp h
  have hsame := List.Forall₂.imp (S := fun k w => name w = k) (fun k w hget => by
    obtain ⟨row, -, hview⟩ := get_eq_ok.mp hget
    exact hname _ _ _ _ hview) hall
  clear hall h
  generalize ids t = ks at hsame ⊢
  induction hsame with
  | nil => rfl
  | cons hfirst hrest ih => rw [List.map_cons, hfirst, ih]

theorem list_single (h : reader.view k r v = .ok w) :
    list reader (Table.empty.put k (r, v)) = .ok [w] := by
  have hget : get reader (Table.empty.put k (r, v)) k = .ok w :=
    get_eq_ok.mpr ⟨(r, v), Table.get_put_self _ k (r, v), h⟩
  have hids : ids (Table.empty.put k (r, v)) = [k] := rfl
  unfold list
  rw [hids, List.mapM_cons, Except.bind_of_ok hget]
  rfl

theorem length_list {ws : List W} (h : list reader t = .ok ws) : ws.length = t.rows.length :=
  (Except.length_of_mapM h).trans length_ids

end List

/-! ## Counting records -/

/-- The records that meet `p`. -/
def count (p : R → Bool) (t : Registry K R V) : Nat := t.rows.countP fun row => p row.1

theorem count_write_new {p : R → Bool} (hfree : Table.get t k = none)
    (h : write reader t k r v = .ok (w, t')) :
    count p t' = count p t + if p r then 1 else 0 := by
  obtain ⟨-, rfl⟩ := write_ok h
  have hnew : k ∉ t.entries := AList.lookup_eq_none.mp hfree
  unfold count Table.put Table.rows
  rw [AList.insert_of_notMem hnew, List.map_cons, List.countP_cons]

/-- What revokes a record changes no count. -/
theorem count_write_again {p : R → Bool} (htaken : Table.get t k = some row)
    (h : write reader t k row.1 v = .ok (w, t')) : count p t' = count p t := by
  obtain ⟨-, rfl⟩ := write_ok h
  have hmem : k ∈ t.entries.entries.keys := AList.lookup_isSome.mp (by
    rw [Table.get] at htaken
    rw [htaken]
    rfl)
  obtain ⟨old, before, after, -, hentries, herase⟩ := List.exists_of_kerase hmem
  obtain rfl : row = old := by
    have hlookup : (⟨k, old⟩ : Sigma fun _ : K => R × Option V) ∈ t.entries.entries := by
      rw [hentries]
      exact List.mem_append_right before List.mem_cons_self
    have hold := AList.mem_lookup_iff.mpr hlookup
    rw [Table.get] at htaken
    exact Option.mem_unique htaken hold
  have hput : (t.put k (row.1, v)).rows = (row.1, v) :: (before ++ after).map (·.2) := by
    unfold Table.put Table.rows
    rw [AList.entries_insert, herase, List.map_cons]
  have hrows : t.rows = (before.map (·.2)) ++ row :: after.map (·.2) := by
    unfold Table.rows
    rw [hentries, List.map_append, List.map_cons]
  unfold count
  rw [hput, hrows, List.countP_cons, List.map_append, List.countP_append, List.countP_append,
    List.countP_cons]
  dsimp only
  omega

/-- Where a view shows the record, the views are counted as the records are. -/
theorem countP_list [LinearOrder K] {ws : List W} {p : R → Bool} {q : W → Bool}
    (h : list reader t = .ok ws)
    (hshows : ∀ k r v w, reader.view k r v = .ok w → q w = p r) :
    ws.countP q = count p t := by
  have hall := Except.mapM_iff.mp h
  have hviews : ∀ ks : List K, List.Forall₂ (fun k w => get reader t k = .ok w) ks ws →
      ws.countP q = ks.countP fun k => (Table.get t k).any (p ·.1) := by
    intro ks hks
    clear hall h
    induction hks with
    | nil => rfl
    | cons hfirst _ ih =>
      obtain ⟨row, hrow, hview⟩ := get_eq_ok.mp hfirst
      rw [List.countP_cons, List.countP_cons, ih, hrow, hshows _ _ _ _ hview]
      rfl
  have hrows : t.rows.countP (fun row => p row.1) =
      t.keys.countP fun k => (Table.get t k).any (p ·.1) := by
    unfold Table.rows Table.keys AList.keys List.keys
    rw [List.countP_map, List.countP_map]
    refine List.countP_congr fun entry hmem => ?_
    have hlookup := AList.mem_lookup_iff.mpr hmem
    simp only [Function.comp_apply, Table.get]
    rw [hlookup]
    rfl
  rw [hviews _ hall, count, hrows]
  exact (List.perm_insertionSort (· ≤ ·) _).countP_eq _

end Facts

end Registry
