import Mathlib
import AgentRoom.Lib.Unordered

/-!
# Topological order with a sorted frontier

Kahn's algorithm over a finite multigraph. The frontier holds the nodes without an
unfinished source, kept sorted; the first of it is finished, and the edges it leaves by
are counted off. It finishes every node exactly when the graph has no cycle, and the order
it finishes them in is then the least of all topological orders, compared from the front.
-/

namespace Kahn

variable {K : Type} [DecidableEq K]

/-! ## The algorithm -/

/-- The frontier, and how many edges still lead to each node. -/
structure State (K : Type) where
  ready : List K
  indegree : K → Int

section Algorithm

variable (le : K → K → Prop) [DecidableRel le]

/-- One edge to `target` is counted off. -/
def relax (s : State K) (target : K) : State K :=
  let indegree := Function.update s.indegree target (s.indegree target - 1)
  if indegree target = 0 then
    { ready := (s.ready ++ [target]).insertionSort le, indegree }
  else { ready := s.ready, indegree }

/-- The nodes in the order they are finished. -/
def run (targets : K → List K) : Nat → State K → List K
  | 0, _ => []
  | fuel + 1, s =>
    match s.ready with
    | [] => []
    | key :: rest =>
      key :: run targets fuel
        (((targets key).insertionSort le).foldl (relax le) { s with ready := rest })

/-- The frontier of a graph none of whose nodes is finished. -/
def start (nodes : List K) (indegree : K → Int) : State K where
  ready := (nodes.filter fun key => indegree key = 0).insertionSort le
  indegree

end Algorithm

/-! ## Graphs -/

/-- A finite multigraph. -/
structure Graph (K : Type) where
  nodes : List K
  targets : K → List K
  nodup : nodes.Nodup
  closed : ∀ u ∈ nodes, ∀ v ∈ targets u, v ∈ nodes

namespace Graph

variable (g : Graph K)

def Edge (u v : K) : Prop := u ∈ g.nodes ∧ v ∈ g.targets u

def Acyclic : Prop := ∀ k, ¬ Relation.TransGen g.Edge k k

/-- A permutation of the nodes in which the source of every edge precedes its target. -/
structure Topological (order : List K) : Prop where
  perm : order.Perm g.nodes
  precedes : ∀ u v, g.Edge u v → order.idxOf u < order.idxOf v

/-- The edges to `k` whose source is not finished. -/
def remaining (done : List K) (k : K) : Nat :=
  ((g.nodes.filter (· ∉ done)).map fun u => (g.targets u).count k).sum

theorem Topological.acyclic {order : List K} (h : g.Topological order) : g.Acyclic := by
  have hlt : ∀ u v, Relation.TransGen g.Edge u v → order.idxOf u < order.idxOf v := by
    intro u v huv
    induction huv with
    | single hedge => exact h.precedes _ _ hedge
    | tail _ hedge ih => exact Nat.lt_trans ih (h.precedes _ _ hedge)
  intro k hk
  exact Nat.lt_irrefl _ (hlt k k hk)

variable {done : List K}

theorem remaining_eq_zero {k : K} :
    g.remaining done k = 0 ↔ ∀ u, g.Edge u k → u ∈ done := by
  unfold remaining
  rw [List.sum_eq_zero_iff_forall_eq_nat, List.forall_mem_map]
  constructor
  · intro h u hedge
    by_contra hout
    have hzero := h u (List.mem_filter.mpr ⟨hedge.1, by simpa using hout⟩)
    exact List.count_eq_zero.mp hzero hedge.2
  · intro h u hu
    obtain ⟨hu, hout⟩ := List.mem_filter.mp hu
    rw [List.count_eq_zero]
    intro hk
    exact absurd (h u ⟨hu, hk⟩) (by simpa using hout)

theorem remaining_append {key : K} (hkey : key ∈ g.nodes) (hnew : key ∉ done) (k : K) :
    g.remaining done k = (g.targets key).count k + g.remaining (done ++ [key]) k := by
  have hperm : (g.nodes.filter (· ∉ done)).Perm
      (key :: g.nodes.filter (· ∉ done ++ [key])) := by
    refine (List.perm_ext_iff_of_nodup (g.nodup.filter _) ?_).mpr fun u => ?_
    · rw [List.nodup_cons]
      exact ⟨by simp, g.nodup.filter _⟩
    · by_cases hu : u = key
      · subst hu
        simp [hkey, hnew]
      · simp [hu]
  unfold remaining
  rw [(hperm.map _).sum_eq, List.map_cons, List.sum_cons]

theorem exists_source (h : g.Acyclic) {k : K} (hk : k ∈ g.nodes) (hout : k ∉ done) :
    ∃ v ∈ g.nodes, v ∉ done ∧ g.remaining done v = 0 := by
  let r : {k // k ∈ g.nodes} → {k // k ∈ g.nodes} → Prop :=
    fun a b => Relation.TransGen g.Edge a.1 b.1
  have htrans : IsTrans _ r := ⟨fun _ _ _ => Relation.TransGen.trans⟩
  have hirrefl : Std.Irrefl r := ⟨fun a => h a.1⟩
  have hfinite : Finite {k // k ∈ g.nodes} := (List.finite_toSet g.nodes).to_subtype
  have hwf : WellFounded r := Finite.wellFounded_of_trans_of_irrefl r
  obtain ⟨v, hv, hmin⟩ := hwf.has_min {a | a.1 ∉ done} ⟨⟨k, hk⟩, hout⟩
  refine ⟨v.1, v.2, hv, g.remaining_eq_zero.mpr fun u hedge => ?_⟩
  by_contra hu
  exact hmin ⟨u, hedge.1⟩ hu (Relation.TransGen.single hedge)

end Graph

/-! ## Counting off the edges of one node -/

/-- **What counting off some edges does.** -/
structure Relaxed (le : K → K → Prop) (s s' : State K) (targets : List K) : Prop where
  indegree : ∀ k, s'.indegree k = s.indegree k - targets.count k
  mem : ∀ k, k ∈ s'.ready ↔ k ∈ s.ready ∨ k ∈ targets ∧ s.indegree k = targets.count k
  nodup : s'.ready.Nodup
  sorted : s'.ready.Pairwise le

section Relax

variable {le : K → K → Prop} [DecidableRel le]

theorem relax_indegree (s : State K) (t k : K) :
    (relax le s t).indegree k = s.indegree k - if k = t then 1 else 0 := by
  have hupdate : Function.update s.indegree t (s.indegree t - 1) k =
      s.indegree k - if k = t then 1 else 0 := by
    by_cases hk : k = t
    · subst hk
      simp
    · simp [hk]
  unfold relax
  dsimp only
  split <;> exact hupdate

theorem relax_mem (s : State K) (t k : K) :
    k ∈ (relax le s t).ready ↔ k ∈ s.ready ∨ k = t ∧ s.indegree t = 1 := by
  unfold relax
  dsimp only
  rw [Function.update_self]
  split
  · next h =>
    have hone : s.indegree t = 1 := by omega
    rw [List.mem_insertionSort, List.mem_append, List.mem_singleton]
    simp [hone]
  · next h =>
    have hone : s.indegree t ≠ 1 := by omega
    simp [hone]

theorem relax_nodup {s : State K} {t : K} (h : s.ready.Nodup) (ht : t ∉ s.ready) :
    (relax le s t).ready.Nodup := by
  unfold relax
  dsimp only
  split
  · refine (List.perm_insertionSort le _).nodup_iff.mpr ?_
    rw [List.nodup_append]
    exact ⟨h, List.nodup_singleton t, fun a ha b hb heq => ht (by simp_all)⟩
  · exact h

variable [IsTrans K le] [Std.Total le]

theorem relax_sorted {s : State K} {t : K} (h : s.ready.Pairwise le) :
    (relax le s t).ready.Pairwise le := by
  unfold relax
  dsimp only
  split
  · exact List.pairwise_insertionSort le _
  · exact h

/-- No more edges lead to a node than are left, so it enters the frontier once, by the last. -/
theorem relaxed_foldl (targets : List K) (s : State K) (hnodup : s.ready.Nodup)
    (hsorted : s.ready.Pairwise le) (hout : ∀ k ∈ targets, k ∉ s.ready)
    (hcount : ∀ k ∈ targets, (targets.count k : Int) ≤ s.indegree k) :
    Relaxed le s (targets.foldl (relax le) s) targets := by
  induction targets generalizing s with
  | nil => exact ⟨by simp, by simp, hnodup, hsorted⟩
  | cons t targets ih =>
    rw [List.forall_mem_cons] at hout hcount
    -- one target after another; the list may hold a target twice
    have hself : ((t :: targets).count t : Int) = targets.count t + 1 := by
      rw [List.count_cons_self]
      omega
    have hother : ∀ k, k ≠ t → (t :: targets).count k = targets.count k :=
      fun k hk => List.count_cons_of_ne (Ne.symm hk)
    have hrest := ih (relax le s t) (relax_nodup hnodup hout.1) (relax_sorted hsorted) ?_ ?_
    · rw [List.foldl_cons]
      constructor
      · intro k
        rw [hrest.indegree, relax_indegree]
        by_cases hk : k = t
        · subst hk
          rw [if_pos rfl]
          omega
        · rw [if_neg hk, hother k hk]
          omega
      · intro k
        rw [hrest.mem, relax_mem, relax_indegree, List.mem_cons]
        by_cases hk : k = t
        · subst hk
          -- ready with this occurrence, or with a later one
          have hpos : k ∈ targets ↔ 0 < targets.count k := List.count_pos_iff.symm
          have hle := hcount.1
          rw [if_pos rfl, hpos]
          have hnot := hout.1
          constructor
          · rintro ((h | ⟨-, h⟩) | ⟨h, h'⟩)
            · exact .inl h
            · exact .inr ⟨.inl rfl, by omega⟩
            · exact .inr ⟨.inl rfl, by omega⟩
          · rintro (h | ⟨-, h⟩)
            · exact .inl (.inl h)
            · by_cases hin : 0 < targets.count k
              · exact .inr ⟨hin, by omega⟩
              · exact .inl (.inr ⟨rfl, by omega⟩)
        · rw [if_neg hk, hother k hk]
          simp [hk]
      · exact hrest.nodup
      · exact hrest.sorted
    · intro k hk hready
      -- a key that still occurs has not come to zero
      rcases (relax_mem s t k).mp hready with h | ⟨rfl, h⟩
      · exact hout.2 k hk h
      · have hle := hcount.1
        have hpos := List.count_pos_iff.mpr hk
        omega
    · intro k hk
      have hle := hcount.2 k hk
      rw [relax_indegree]
      by_cases hkt : k = t
      · subst hkt
        rw [if_pos rfl]
        omega
      · rw [hother k hkt] at hle
        rw [if_neg hkt]
        omega

end Relax

/-! ## The whole run -/

/-- The two lists are equal, or differ first where the left one has the lesser key. -/
def LexLe {K : Type} (le : K → K → Prop) (a b : List K) : Prop :=
  a = b ∨ List.Lex (fun x y => le x y ∧ x ≠ y) a b

theorem LexLe.cons {K : Type} {le : K → K → Prop} {a b : List K} (x : K) (h : LexLe le a b) :
    LexLe le (x :: a) (x :: b) := by
  rcases h with rfl | h
  · exact .inl rfl
  · exact .inr (.cons h)

section Run

variable (g : Graph K) (le : K → K → Prop) [DecidableRel le] [IsTrans K le] [Std.Total le]

/-- **What holds after some nodes are finished.** The frontier is what is unfinished and has
no edge left, the counts are what is left, and the sources of every finished node came
before it. -/
structure Inv (done : List K) (s : State K) : Prop where
  done_nodup : done.Nodup
  done_nodes : ∀ k ∈ done, k ∈ g.nodes
  sources : ∀ a v b, done = a ++ v :: b → ∀ u, g.Edge u v → u ∈ a
  ready_nodup : s.ready.Nodup
  ready_sorted : s.ready.Pairwise le
  ready_mem : ∀ k, k ∈ s.ready ↔ k ∈ g.nodes ∧ k ∉ done ∧ g.remaining done k = 0
  indegree : ∀ k ∈ g.nodes, s.indegree k = g.remaining done k

theorem inv_start {indegree : K → Int}
    (h : ∀ k ∈ g.nodes, indegree k = g.remaining [] k) :
    Inv g le [] (start le g.nodes indegree) where
  done_nodup := List.nodup_nil
  done_nodes := by simp
  sources := by simp
  ready_nodup := (List.perm_insertionSort le _).nodup_iff.mpr (g.nodup.filter _)
  ready_sorted := List.pairwise_insertionSort le _
  ready_mem := by
    intro k
    unfold start
    rw [List.mem_insertionSort, List.mem_filter]
    constructor
    · intro hk
      have hzero := of_decide_eq_true hk.2
      rw [h k hk.1] at hzero
      exact ⟨hk.1, by simp, by omega⟩
    · intro hk
      refine ⟨hk.1, decide_eq_true ?_⟩
      rw [h k hk.1, hk.2.2]
      rfl
  indegree := h

variable {done : List K} {s : State K}

/-- **Finishing the first of the frontier** keeps the invariant. -/
theorem inv_step (h : Inv g le done s) {key : K} {rest : List K} (hready : s.ready = key :: rest) :
    Inv g le (done ++ [key])
      (((g.targets key).insertionSort le).foldl (relax le) { s with ready := rest }) := by
  have hkey : key ∈ s.ready := by rw [hready]; exact List.mem_cons_self
  obtain ⟨hnode, hnew, hzero⟩ := (h.ready_mem key).mp hkey
  have hperm := List.perm_insertionSort le (g.targets key)
  have hnodup := h.ready_nodup
  have hsorted := h.ready_sorted
  rw [hready] at hnodup hsorted
  rw [List.nodup_cons] at hnodup
  have hremaining := fun k => g.remaining_append hnode hnew k
  -- a target still waits for the key, so it is not ready
  have hout : ∀ k ∈ (g.targets key).insertionSort le, k ∉ rest := by
    intro k hk hin
    have hready' : k ∈ s.ready := by rw [hready]; exact List.mem_cons_of_mem _ hin
    have hleft := ((h.ready_mem k).mp hready').2.2
    have hpos := List.count_pos_iff.mpr (hperm.mem_iff.mp hk)
    have := hremaining k
    omega
  have hcount : ∀ k ∈ (g.targets key).insertionSort le,
      (((g.targets key).insertionSort le).count k : Int) ≤ s.indegree k := by
    intro k hk
    have hmem := hperm.mem_iff.mp hk
    have := hremaining k
    rw [h.indegree k (g.closed key hnode k hmem), hperm.count_eq]
    omega
  have hrelaxed := relaxed_foldl _ { s with ready := rest } hnodup.2
    (List.pairwise_cons.mp hsorted).2 hout hcount
  -- each target waits for one source less
  have hindegree : ∀ k ∈ g.nodes, (((g.targets key).insertionSort le).foldl (relax le)
      { s with ready := rest }).indegree k = g.remaining (done ++ [key]) k := by
    intro k hk
    have := hremaining k
    rw [hrelaxed.indegree, hperm.count_eq]
    change s.indegree k - _ = _
    rw [h.indegree k hk]
    omega
  refine ⟨?_, ?_, ?_, hrelaxed.nodup, hrelaxed.sorted, ?_, hindegree⟩
  · rw [List.nodup_append]
    refine ⟨h.done_nodup, List.nodup_singleton key, fun a ha b hb heq => ?_⟩
    rw [List.mem_singleton] at hb
    exact hnew (by rw [← hb, ← heq]; exact ha)
  · intro k hk
    rcases List.mem_append.mp hk with hk | hk
    · exact h.done_nodes k hk
    · rw [List.mem_singleton] at hk
      rw [hk]
      exact hnode
  · -- the key comes after all its sources, which were done
    intro a v b heq u hedge
    rcases List.eq_nil_or_concat b with rfl | ⟨b', w, rfl⟩
    · obtain ⟨rfl, hv⟩ := List.append_inj' heq rfl
      rw [List.singleton_inj] at hv
      subst hv
      exact g.remaining_eq_zero.mp hzero u hedge
    · have heq' : done ++ [key] = (a ++ v :: b') ++ [w] := by simpa using heq
      exact h.sources a v b' (List.append_inj' heq' rfl).1 u hedge
  · intro k
    -- ready are the others, and the targets that waited for the key only
    rw [hrelaxed.mem, hperm.mem_iff, hperm.count_eq, List.mem_append, List.mem_singleton]
    change k ∈ rest ∨ k ∈ g.targets key ∧ s.indegree k = _ ↔ _
    have hremain := hremaining k
    have hready_mem := h.ready_mem k
    rw [hready, List.mem_cons] at hready_mem
    constructor
    · rintro (hk | ⟨hk, hlast⟩)
      · obtain ⟨hn, hnot, hz⟩ := hready_mem.mp (.inr hk)
        have hne : k ≠ key := fun heq => hnodup.1 (heq ▸ hk)
        exact ⟨hn, by tauto, by omega⟩
      · have hn := g.closed key hnode k hk
        rw [h.indegree k hn] at hlast
        have hpos := List.count_pos_iff.mpr hk
        have hnot : k ∉ done := by
          intro hdone
          obtain ⟨a, b, rfl⟩ := List.append_of_mem hdone
          exact hnew (List.mem_append_left _ (h.sources a k b rfl key ⟨hnode, hk⟩))
        have hne : k ≠ key := by
          rintro rfl
          omega
        exact ⟨hn, by tauto, by omega⟩
    · rintro ⟨hn, hnot, hz⟩
      rw [not_or] at hnot
      by_cases hk : k ∈ g.targets key
      · refine .inr ⟨hk, ?_⟩
        rw [h.indegree k hn]
        omega
      · have hcount := List.count_eq_zero.mpr hk
        rcases hready_mem.mpr ⟨hn, hnot.1, by omega⟩ with heq | hin
        · exact absurd heq hnot.2
        · exact .inl hin

/-- **The invariant holds to the end**, which comes when the frontier is empty. -/
theorem inv_run (fuel : Nat) (h : Inv g le done s) (hfuel : g.nodes.length < done.length + fuel) :
    ∃ s', Inv g le (done ++ run le g.targets fuel s) s' ∧ s'.ready = [] := by
  induction fuel generalizing done s with
  | zero =>
    have hle := (List.subperm_of_subset h.done_nodup h.done_nodes).length_le
    omega
  | succ fuel ih =>
    rw [run]
    rcases hready : s.ready with _ | ⟨key, rest⟩
    · exact ⟨s, by simpa using h, hready⟩
    · have hnext := ih (inv_step g le h hready) (by rw [List.length_append]; simp; omega)
      simpa using hnext

theorem sources_of_topological {rest : List K} {t : K} (h : g.Topological (done ++ t :: rest))
    {u : K} (hedge : g.Edge u t) : u ∈ done := by
  have hlt := h.precedes u t hedge
  have hnodup := h.perm.nodup_iff.mpr g.nodup
  have hout : t ∉ done := by
    intro hin
    exact (List.disjoint_of_nodup_append hnodup) hin List.mem_cons_self
  by_contra hu
  rw [List.idxOf_append, List.idxOf_append, if_neg hu, if_neg hout, List.idxOf_cons_self] at hlt
  omega

/-- **No topological order that begins with the finished nodes comes before the run's.** -/
theorem run_least (fuel : Nat) (h : Inv g le done s) {order : List K}
    (horder : g.Topological (done ++ order)) (hfuel : order.length ≤ fuel) :
    LexLe le (run le g.targets fuel s) order := by
  induction fuel generalizing done s order with
  | zero =>
    have hnil : order = [] := List.eq_nil_of_length_eq_zero (by omega)
    subst hnil
    exact .inl rfl
  | succ fuel ih =>
    rw [run]
    rcases order with _ | ⟨t, order⟩
    · -- every node is finished, so nothing is ready
      rcases hready : s.ready with _ | ⟨key, rest⟩
      · exact .inl rfl
      · have hkey := (h.ready_mem key).mp (by rw [hready]; exact List.mem_cons_self)
        have hin := horder.perm.mem_iff.mpr hkey.1
        rw [List.append_nil] at hin
        exact absurd hin hkey.2.1
    · -- the order's next node is ready, so the first of the frontier is no greater
      have hnodup := horder.perm.nodup_iff.mpr g.nodup
      have ht : t ∈ s.ready := by
        refine (h.ready_mem t).mpr ⟨horder.perm.mem_iff.mp (by simp), ?_, ?_⟩
        · intro hin
          exact (List.disjoint_of_nodup_append hnodup) hin List.mem_cons_self
        · exact g.remaining_eq_zero.mpr fun u hedge => sources_of_topological g horder hedge
      rcases hready : s.ready with _ | ⟨key, rest⟩
      · rw [hready] at ht
        cases ht
      · have hsorted := h.ready_sorted
        rw [hready] at ht hsorted
        rcases List.mem_cons.mp ht with rfl | ht
        · refine LexLe.cons t (ih (inv_step g le h hready) ?_ ?_)
          · simpa using horder
          · rw [List.length_cons] at hfuel
            omega
        · have hle := (List.pairwise_cons.mp hsorted).1 t ht
          have hne : key ≠ t := by
            have hnd := h.ready_nodup
            rw [hready, List.nodup_cons] at hnd
            intro heq
            exact hnd.1 (by rw [heq]; exact ht)
          exact .inr (.rel ⟨hle, hne⟩)

end Run

/-! ## What the algorithm returns -/

section Order

variable (g : Graph K) (le : K → K → Prop) [DecidableRel le]

/-- Kahn's order, given the number of edges to each node. -/
def sort (indegree : K → Int) : List K :=
  run le g.targets (g.nodes.length + 1) (start le g.nodes indegree)

variable [IsTrans K le] [Std.Total le] {indegree : K → Int}

theorem sort_inv (h : ∀ k ∈ g.nodes, indegree k = g.remaining [] k) :
    ∃ s, Inv g le (sort g le indegree) s ∧ s.ready = [] := by
  have hrun := inv_run g le (g.nodes.length + 1) (inv_start g le h) (by simp)
  simpa [sort] using hrun

/-- An order with every node is topological. -/
theorem sort_topological (h : ∀ k ∈ g.nodes, indegree k = g.remaining [] k)
    (hlength : (sort g le indegree).length = g.nodes.length) :
    g.Topological (sort g le indegree) := by
  obtain ⟨s, hinv, -⟩ := sort_inv g le h
  have hperm : (sort g le indegree).Perm g.nodes :=
    (List.subperm_of_subset hinv.done_nodup hinv.done_nodes).perm_of_length_le (by omega)
  refine ⟨hperm, fun u v hedge => ?_⟩
  have hv := hperm.mem_iff.mpr (g.closed u hedge.1 v hedge.2)
  obtain ⟨a, b, heq⟩ := List.append_of_mem hv
  have hu := hinv.sources a v b heq u hedge
  have hnodup := hinv.done_nodup
  rw [heq] at hnodup ⊢
  have hnot : v ∉ a := fun hin =>
    (List.disjoint_of_nodup_append hnodup) hin List.mem_cons_self
  have hlt := List.idxOf_lt_length_of_mem hu
  rw [List.idxOf_append, List.idxOf_append, if_pos hu, if_neg hnot]
  omega

/-- **Every node is finished exactly when there is no cycle.** -/
theorem sort_complete (h : ∀ k ∈ g.nodes, indegree k = g.remaining [] k) :
    (sort g le indegree).length = g.nodes.length ↔ g.Acyclic := by
  constructor
  · intro hlength
    exact (sort_topological g le h hlength).acyclic
  · intro hacyclic
    obtain ⟨s, hinv, hempty⟩ := sort_inv g le h
    have hsub := List.subperm_of_subset hinv.done_nodup hinv.done_nodes
    refine Nat.le_antisymm hsub.length_le ?_
    by_contra hlt
    -- a node is left, and with it one that is ready
    have hleft : ∃ k ∈ g.nodes, k ∉ sort g le indegree := by
      by_contra hall
      simp only [not_exists, not_and, not_not] at hall
      exact hlt (List.subperm_of_subset g.nodup hall).length_le
    obtain ⟨k, hk, hout⟩ := hleft
    obtain ⟨v, hv, hnot, hzero⟩ := g.exists_source hacyclic hk hout
    have hready := (hinv.ready_mem v).mpr ⟨hv, hnot, hzero⟩
    rw [hempty] at hready
    cases hready

/-- **The order is the least topological one.** -/
theorem sort_least (h : ∀ k ∈ g.nodes, indegree k = g.remaining [] k) {order : List K}
    (horder : g.Topological order) : LexLe le (sort g le indegree) order := by
  refine run_least g le _ (inv_start g le h) horder ?_
  rw [horder.perm.length_eq]
  omega

end Order

/-! ## The lists a graph is given by -/

section Permuted

variable {le : K → K → Prop} [DecidableRel le] [IsTrans K le] [Std.Total le] [Std.Antisymm le]

theorem run_perm {targets targets' : K → List K} (h : ∀ k, (targets k).Perm (targets' k))
    (fuel : Nat) (s : State K) : run le targets fuel s = run le targets' fuel s := by
  induction fuel generalizing s with
  | zero => rfl
  | succ fuel ih =>
    rw [run, run]
    rcases s.ready with _ | ⟨key, rest⟩
    · rfl
    · dsimp only
      rw [Unordered.insertionSort_perm (h key) fun _ _ _ _ => antisymm, ih]

omit [DecidableEq K] in
theorem start_perm {nodes nodes' : List K} (h : nodes.Perm nodes') (indegree : K → Int) :
    start le nodes indegree = start le nodes' indegree := by
  unfold start
  rw [Unordered.insertionSort_perm (h.filter _) fun _ _ _ _ => antisymm]

end Permuted

end Kahn
