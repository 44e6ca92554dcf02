import Mathlib

/-!
# JSON values

A JSON value over a type of numbers and a type of strings. What two programs make of
one value differs in these two types only: `map` translates them. `sorted` puts the
members of every object in the order of their keys, so two values that differ in that
order only have the same sorted form.
-/

/-- A JSON value. -/
inductive JsonValue (N S : Type) where
  | null
  | bool (value : Bool)
  | number (value : N)
  | string (value : S)
  | array (entries : List (JsonValue N S))
  | object (members : List (S × JsonValue N S))

namespace JsonValue

variable {N S N' S' : Type}

mutual

/-- The value with its numbers and strings translated. -/
def map (f : N → N') (g : S → S') : JsonValue N S → JsonValue N' S'
  | .null => .null
  | .bool b => .bool b
  | .number n => .number (f n)
  | .string s => .string (g s)
  | .array entries => .array (mapEntries f g entries)
  | .object members => .object (mapMembers f g members)

def mapEntries (f : N → N') (g : S → S') : List (JsonValue N S) → List (JsonValue N' S')
  | [] => []
  | entry :: entries => map f g entry :: mapEntries f g entries

def mapMembers (f : N → N') (g : S → S') :
    List (S × JsonValue N S) → List (S' × JsonValue N' S')
  | [] => []
  | (key, value) :: members => (g key, map f g value) :: mapMembers f g members

end

theorem mapEntries_eq (f : N → N') (g : S → S') (entries : List (JsonValue N S)) :
    mapEntries f g entries = entries.map (map f g) := by
  induction entries with
  | nil => rfl
  | cons entry entries ih => rw [mapEntries, ih, List.map_cons]

theorem mapMembers_eq (f : N → N') (g : S → S') (members : List (S × JsonValue N S)) :
    mapMembers f g members = members.map fun m => (g m.1, map f g m.2) := by
  induction members with
  | nil => rfl
  | cons m members ih => rw [mapMembers, ih, List.map_cons]

@[simp] theorem map_array (f : N → N') (g : S → S') (entries : List (JsonValue N S)) :
    map f g (.array entries) = .array (entries.map (map f g)) := by
  rw [map, mapEntries_eq]

@[simp] theorem map_object (f : N → N') (g : S → S') (members : List (S × JsonValue N S)) :
    map f g (.object members) = .object (members.map fun m => (g m.1, map f g m.2)) := by
  rw [map, mapMembers_eq]

/-! ## Induction -/

/-- **Induction over a value**, the entries and the values of the members below it. -/
@[elab_as_elim]
theorem rule {motive : JsonValue N S → Prop} (null : motive .null) (bool : ∀ b, motive (.bool b))
    (number : ∀ n, motive (.number n)) (string : ∀ s, motive (.string s))
    (array : ∀ entries, (∀ entry ∈ entries, motive entry) → motive (.array entries))
    (object : ∀ members, (∀ m ∈ members, motive m.2) → motive (.object members))
    (v : JsonValue N S) : motive v := by
  refine @JsonValue.rec N S motive (fun entries => ∀ entry ∈ entries, motive entry)
    (fun members => ∀ m ∈ members, motive m.2) (fun m => motive m.2)
    null bool number string array object ?_ ?_ ?_ ?_ ?_ v
  · simp
  · intro entry entries hentry hentries e he
    rcases List.mem_cons.mp he with rfl | he
    · exact hentry
    · exact hentries e he
  · simp
  · intro m members hm hmembers m' hm'
    rcases List.mem_cons.mp hm' with rfl | hm'
    · exact hm
    · exact hmembers m' hm'
  · intro _ _ h
    exact h

theorem map_map {N'' S'' : Type} (f : N → N') (g : S → S') (f' : N' → N'') (g' : S' → S'')
    (v : JsonValue N S) : map f' g' (map f g v) = map (f' ∘ f) (g' ∘ g) v := by
  induction v using rule with
  | array entries ih =>
    simp only [map_array, List.map_map]
    congr 1
    exact List.map_congr_left fun e he => ih e he
  | object members ih =>
    simp only [map_object, List.map_map]
    congr 1
    refine List.map_congr_left fun m hm => ?_
    simp only [Function.comp_apply, ih m hm]
  | _ => rfl

/-! ## Adding up, and holding throughout -/

mutual

/-- The weights of all values within, the value itself among them. -/
def total (w : JsonValue N S → Nat) : JsonValue N S → Nat
  | .array entries => w (.array entries) + totalEntries w entries
  | .object members => w (.object members) + totalMembers w members
  | v => w v

def totalEntries (w : JsonValue N S → Nat) : List (JsonValue N S) → Nat
  | [] => 0
  | entry :: entries => total w entry + totalEntries w entries

def totalMembers (w : JsonValue N S → Nat) : List (S × JsonValue N S) → Nat
  | [] => 0
  | (_, value) :: members => total w value + totalMembers w members

end

theorem total_array (w : JsonValue N S → Nat) (entries : List (JsonValue N S)) :
    total w (.array entries) = w (.array entries) + (entries.map (total w)).sum := by
  have h : totalEntries w entries = (entries.map (total w)).sum := by
    induction entries with
    | nil => rfl
    | cons entry entries ih => rw [totalEntries, ih, List.map_cons, List.sum_cons]
  rw [total, h]

theorem total_object (w : JsonValue N S → Nat) (members : List (S × JsonValue N S)) :
    total w (.object members) =
      w (.object members) + (members.map fun m => total w m.2).sum := by
  have h : totalMembers w members = (members.map fun m => total w m.2).sum := by
    induction members with
    | nil => rfl
    | cons m members ih => rw [totalMembers, ih, List.map_cons, List.sum_cons]
  rw [total, h]

theorem total_map (w : JsonValue N' S' → Nat) (f : N → N') (g : S → S') (v : JsonValue N S) :
    total w (map f g v) = total (fun u => w (map f g u)) v := by
  induction v using rule with
  | array entries ih =>
    rw [map_array, total_array, total_array, List.map_map, map_array]
    congr 2
    exact List.map_congr_left ih
  | object members ih =>
    rw [map_object, total_object, total_object, List.map_map, map_object]
    congr 2
    exact List.map_congr_left ih
  | _ => rfl

mutual

/-- The property holds of the value and of every value within. -/
def All (p : JsonValue N S → Prop) : JsonValue N S → Prop
  | .array entries => p (.array entries) ∧ AllEntries p entries
  | .object members => p (.object members) ∧ AllMembers p members
  | v => p v

def AllEntries (p : JsonValue N S → Prop) : List (JsonValue N S) → Prop
  | [] => True
  | entry :: entries => All p entry ∧ AllEntries p entries

def AllMembers (p : JsonValue N S → Prop) : List (S × JsonValue N S) → Prop
  | [] => True
  | (_, value) :: members => All p value ∧ AllMembers p members

end

theorem all_array (p : JsonValue N S → Prop) (entries : List (JsonValue N S)) :
    All p (.array entries) ↔ p (.array entries) ∧ ∀ entry ∈ entries, All p entry := by
  have h : AllEntries p entries ↔ ∀ entry ∈ entries, All p entry := by
    induction entries with
    | nil => simp [AllEntries]
    | cons entry entries ih => rw [AllEntries, ih, List.forall_mem_cons]
  rw [All, h]

theorem all_object (p : JsonValue N S → Prop) (members : List (S × JsonValue N S)) :
    All p (.object members) ↔ p (.object members) ∧ ∀ m ∈ members, All p m.2 := by
  have h : AllMembers p members ↔ ∀ m ∈ members, All p m.2 := by
    induction members with
    | nil => simp [AllMembers]
    | cons m members ih => rw [AllMembers, ih, List.forall_mem_cons]
  rw [All, h]

theorem all_map (p : JsonValue N' S' → Prop) (f : N → N') (g : S → S') (v : JsonValue N S) :
    All p (map f g v) ↔ All (fun u => p (map f g u)) v := by
  induction v using rule with
  | array entries ih =>
    rw [map_array, all_array, all_array, map_array, List.forall_mem_map]
    exact and_congr_right' (forall₂_congr ih)
  | object members ih =>
    rw [map_object, all_object, all_object, map_object, List.forall_mem_map]
    exact and_congr_right' (forall₂_congr ih)
  | _ => exact Iff.rfl

variable {p : JsonValue N S → Prop} {v : JsonValue N S}

theorem All.imp {q : JsonValue N S → Prop} (hpq : ∀ u, p u → q u) (h : All p v) : All q v := by
  induction v using rule with
  | array entries ih =>
    rw [all_array] at h ⊢
    exact ⟨hpq _ h.1, fun e he => ih e he (h.2 e he)⟩
  | object members ih =>
    rw [all_object] at h ⊢
    exact ⟨hpq _ h.1, fun m hm => ih m hm (h.2 m hm)⟩
  | _ => exact hpq _ h

theorem all_and (p q : JsonValue N S → Prop) (v : JsonValue N S) :
    All (fun u => p u ∧ q u) v ↔ All p v ∧ All q v := by
  constructor
  · exact fun h => ⟨h.imp fun _ hu => hu.1, h.imp fun _ hu => hu.2⟩
  · rintro ⟨hp, hq⟩
    induction v using rule with
    | array entries ih =>
      rw [all_array] at hp hq ⊢
      exact ⟨⟨hp.1, hq.1⟩, fun e he => ih e he (hp.2 e he) (hq.2 e he)⟩
    | object members ih =>
      rw [all_object] at hp hq ⊢
      exact ⟨⟨hp.1, hq.1⟩, fun m hm => ih m hm (hp.2 m hm) (hq.2 m hm)⟩
    | _ => exact ⟨hp, hq⟩

mutual

/-- How deep the value reaches below itself. -/
def height : JsonValue N S → Nat
  | .array entries => heightEntries entries
  | .object members => heightMembers members
  | _ => 0

def heightEntries : List (JsonValue N S) → Nat
  | [] => 0
  | entry :: entries => max (height entry + 1) (heightEntries entries)

def heightMembers : List (S × JsonValue N S) → Nat
  | [] => 0
  | (_, value) :: members => max (height value + 1) (heightMembers members)

end

theorem height_array (entries : List (JsonValue N S)) (n : Nat) :
    height (.array entries) ≤ n ↔ ∀ entry ∈ entries, height entry + 1 ≤ n := by
  rw [height]
  induction entries with
  | nil => simp [heightEntries]
  | cons entry entries ih => rw [heightEntries, List.forall_mem_cons, Nat.max_le, ih]

theorem height_object (members : List (S × JsonValue N S)) (n : Nat) :
    height (.object members) ≤ n ↔ ∀ m ∈ members, height m.2 + 1 ≤ n := by
  rw [height]
  induction members with
  | nil => simp [heightMembers]
  | cons m members ih => rw [heightMembers, List.forall_mem_cons, Nat.max_le, ih]

theorem height_map (f : N → N') (g : S → S') (v : JsonValue N S) :
    height (map f g v) = height v := by
  induction v using rule with
  | array entries ih =>
    refine eq_of_forall_ge_iff fun n => ?_
    rw [map_array, height_array, height_array, List.forall_mem_map]
    exact forall₂_congr fun e he => by rw [ih e he]
  | object members ih =>
    refine eq_of_forall_ge_iff fun n => ?_
    rw [map_object, height_object, height_object, List.forall_mem_map]
    exact forall₂_congr fun m hm => by rw [ih m hm]
  | _ => rfl

/-- Translations that agree on the numbers and the strings within agree on the value. -/
theorem map_congr {f f' : N → N'} {g g' : S → S'} (h : All (fun
      | .number n => f n = f' n
      | .string s => g s = g' s
      | .object members => ∀ m ∈ members, g m.1 = g' m.1
      | _ => True) v) : map f g v = map f' g' v := by
  induction v using rule with
  | number n => exact congrArg JsonValue.number h
  | string s => exact congrArg JsonValue.string h
  | array entries ih =>
    rw [all_array] at h
    rw [map_array, map_array]
    exact congrArg _ (List.map_congr_left fun e he => ih e he (h.2 e he))
  | object members ih =>
    rw [all_object] at h
    rw [map_object, map_object]
    refine congrArg _ (List.map_congr_left fun m hm => ?_)
    rw [h.1 m hm, ih m hm (h.2 m hm)]
  | _ => rfl

/-- The keys of an object are distinct. -/
def DistinctKeys : JsonValue N S → Prop
  | .object members => (members.map (·.1)).Nodup
  | _ => True

section LastWins

variable [DecidableEq S]

/-- The member a map keeps for each key: the last one. -/
def keepLast {V : Type} : List (S × V) → List (S × V)
  | [] => []
  | (key, value) :: members =>
    if (keepLast members).any (·.1 = key) then keepLast members
    else (key, value) :: keepLast members

mutual

/-- The value with one member for each key of an object. -/
def lastWins : JsonValue N S → JsonValue N S
  | .array entries => .array (lastWinsEntries entries)
  | .object members => .object (keepLast (lastWinsMembers members))
  | v => v

def lastWinsEntries : List (JsonValue N S) → List (JsonValue N S)
  | [] => []
  | entry :: entries => lastWins entry :: lastWinsEntries entries

def lastWinsMembers : List (S × JsonValue N S) → List (S × JsonValue N S)
  | [] => []
  | (key, value) :: members => (key, lastWins value) :: lastWinsMembers members

end

theorem lastWins_array (entries : List (JsonValue N S)) :
    lastWins (.array entries) = .array (entries.map lastWins) := by
  have h : lastWinsEntries entries = entries.map lastWins := by
    induction entries with
    | nil => rfl
    | cons entry entries ih => rw [lastWinsEntries, ih, List.map_cons]
  rw [lastWins, h]

theorem lastWins_object (members : List (S × JsonValue N S)) :
    lastWins (.object members) = .object (keepLast (members.map fun m => (m.1, lastWins m.2))) := by
  have h : lastWinsMembers members = members.map fun m => (m.1, lastWins m.2) := by
    induction members with
    | nil => rfl
    | cons m members ih => rw [lastWinsMembers, ih, List.map_cons]
  rw [lastWins, h]

variable {V : Type}

theorem keepLast_sublist (members : List (S × V)) :
    (keepLast members).Sublist members := by
  induction members with
  | nil => exact List.Sublist.refl _
  | cons m members ih =>
    obtain ⟨key, value⟩ := m
    rw [keepLast]
    split
    · exact ih.cons _
    · exact ih.cons_cons _

theorem keepLast_nodup (members : List (S × V)) :
    ((keepLast members).map (·.1)).Nodup := by
  induction members with
  | nil => exact List.nodup_nil
  | cons m members ih =>
    obtain ⟨key, value⟩ := m
    rw [keepLast]
    split
    · exact ih
    · next hnone =>
      rw [List.map_cons, List.nodup_cons]
      refine ⟨fun hmem => hnone ?_, ih⟩
      obtain ⟨m, hm, heq⟩ := List.mem_map.mp hmem
      exact List.any_eq_true.mpr ⟨m, hm, by simpa using heq⟩

theorem keepLast_of_nodup {members : List (S × V)} (h : (members.map (·.1)).Nodup) :
    keepLast members = members := by
  induction members with
  | nil => rfl
  | cons m members ih =>
    obtain ⟨key, value⟩ := m
    rw [List.map_cons, List.nodup_cons] at h
    rw [keepLast, ih h.2, if_neg]
    intro hany
    obtain ⟨m, hm, heq⟩ := List.any_eq_true.mp hany
    exact h.1 (List.mem_map.mpr ⟨m, hm, by simpa using heq⟩)

theorem lastWins_distinct (v : JsonValue N S) : All DistinctKeys (lastWins v) := by
  induction v using rule with
  | array entries ih =>
    rw [lastWins_array, all_array, List.forall_mem_map]
    exact ⟨trivial, ih⟩
  | object members ih =>
    rw [lastWins_object, all_object]
    refine ⟨keepLast_nodup _, fun m hm => ?_⟩
    obtain ⟨m', hm', rfl⟩ := List.mem_map.mp ((keepLast_sublist _).subset hm)
    exact ih m' hm'
  | _ => trivial

/-- **Nothing is lost where the keys are distinct.** -/
theorem lastWins_of_distinct {v : JsonValue N S} (h : All DistinctKeys v) : lastWins v = v := by
  induction v using rule with
  | array entries ih =>
    rw [all_array] at h
    rw [lastWins_array]
    congr 1
    exact (List.map_congr_left fun e he => ih e he (h.2 e he)).trans (List.map_id _)
  | object members ih =>
    rw [all_object] at h
    have hsame : members.map (fun m => (m.1, lastWins m.2)) = members := by
      refine (List.map_congr_left fun m hm => ?_).trans (List.map_id _)
      rw [ih m hm (h.2 m hm)]
      rfl
    rw [lastWins_object, hsame, keepLast_of_nodup h.1]
  | _ => rfl

end LastWins

/-- Keys stay distinct under an injective translation. -/
theorem distinctKeys_map {f : N → N'} {g : S → S'} (hg : Function.Injective g)
    (v : JsonValue N S) : All DistinctKeys (map f g v) ↔ All DistinctKeys v := by
  induction v using rule with
  | array entries ih =>
    rw [map_array, all_array, all_array, List.forall_mem_map]
    exact and_congr Iff.rfl (forall₂_congr ih)
  | object members ih =>
    have hkeys : (members.map fun m => (g m.1, map f g m.2)).map (·.1) =
        (members.map (·.1)).map g := by
      rw [List.map_map, List.map_map]
      rfl
    rw [map_object, all_object, all_object, List.forall_mem_map]
    refine and_congr ?_ (forall₂_congr ih)
    change ((members.map fun m => (g m.1, map f g m.2)).map (·.1)).Nodup ↔
      (members.map (·.1)).Nodup
    rw [hkeys, List.nodup_map_iff hg]
  | _ => exact Iff.rfl

/-! ## Members in order -/

section Sorted

variable (le : S → S → Prop) [DecidableRel le]

mutual

/-- The value with the members of every object in the order of their keys. -/
def sorted : JsonValue N S → JsonValue N S
  | .array entries => .array (sortedEntries entries)
  | .object members => .object ((sortedMembers members).insertionSort fun a b => le a.1 b.1)
  | v => v

def sortedEntries : List (JsonValue N S) → List (JsonValue N S)
  | [] => []
  | entry :: entries => sorted entry :: sortedEntries entries

def sortedMembers : List (S × JsonValue N S) → List (S × JsonValue N S)
  | [] => []
  | (key, value) :: members => (key, sorted value) :: sortedMembers members

end

theorem sorted_array (entries : List (JsonValue N S)) :
    sorted le (.array entries) = .array (entries.map (sorted le)) := by
  have h : sortedEntries le entries = entries.map (sorted le) := by
    induction entries with
    | nil => rfl
    | cons entry entries ih => rw [sortedEntries, ih, List.map_cons]
  rw [sorted, h]

theorem sorted_object (members : List (S × JsonValue N S)) :
    sorted le (.object members) =
      .object ((members.map fun m => (m.1, sorted le m.2)).insertionSort
        fun a b => le a.1 b.1) := by
  have h : sortedMembers le members = members.map fun m => (m.1, sorted le m.2) := by
    induction members with
    | nil => rfl
    | cons m members ih => rw [sortedMembers, ih, List.map_cons]
  rw [sorted, h]

theorem sorted_members_perm (members : List (S × JsonValue N S)) :
    ((members.map fun m => (m.1, sorted le m.2)).insertionSort fun a b => le a.1 b.1).Perm
      (members.map fun m => (m.1, sorted le m.2)) :=
  List.perm_insertionSort _ _

/-- A weight that sees of an array its length, and of an object its keys in any order. -/
structure Shallow {R : Type} (w : JsonValue N S → R) : Prop where
  array : ∀ es es' : List (JsonValue N S), es.length = es'.length → w (.array es) = w (.array es')
  object : ∀ ms ms' : List (S × JsonValue N S), (ms.map (·.1)).Perm (ms'.map (·.1)) →
    w (.object ms) = w (.object ms')

theorem total_sorted {w : JsonValue N S → Nat} (hw : Shallow w) (v : JsonValue N S) :
    total w (sorted le v) = total w v := by
  induction v using rule with
  | array entries ih =>
    rw [sorted_array, total_array, total_array, List.map_map,
      hw.array (entries.map (sorted le)) entries (by simp)]
    congr 2
    exact List.map_congr_left ih
  | object members ih =>
    have hperm := sorted_members_perm le members
    rw [sorted_object, total_object, total_object, (hperm.map _).sum_eq, List.map_map]
    congr 1
    · refine hw.object _ _ ?_
      refine (hperm.map (·.1)).trans ?_
      rw [List.map_map]
      exact List.Perm.refl _
    · congr 1
      exact List.map_congr_left ih
  | _ => rfl

theorem all_sorted {p : JsonValue N S → Prop} (hp : Shallow p) (v : JsonValue N S) :
    All p (sorted le v) ↔ All p v := by
  induction v using rule with
  | array entries ih =>
    rw [sorted_array, all_array, all_array, hp.array (entries.map (sorted le)) entries (by simp),
      List.forall_mem_map]
    exact and_congr_right' (forall₂_congr ih)
  | object members ih =>
    have hperm := sorted_members_perm le members
    have hkeys : p (.object ((members.map fun m => (m.1, sorted le m.2)).insertionSort
        fun a b => le a.1 b.1)) = p (.object members) := by
      refine hp.object _ _ ?_
      refine (hperm.map (·.1)).trans ?_
      rw [List.map_map]
      exact List.Perm.refl _
    rw [sorted_object, all_object, all_object, hkeys]
    refine and_congr_right' ?_
    simp only [hperm.mem_iff, List.mem_map, forall_exists_index, and_imp,
      forall_apply_eq_imp_iff₂]
    exact forall₂_congr ih
  | _ => exact Iff.rfl

theorem height_sorted (v : JsonValue N S) : height (sorted le v) = height v := by
  induction v using rule with
  | array entries ih =>
    refine eq_of_forall_ge_iff fun n => ?_
    rw [sorted_array, height_array, height_array, List.forall_mem_map]
    exact forall₂_congr fun e he => by rw [ih e he]
  | object members ih =>
    refine eq_of_forall_ge_iff fun n => ?_
    have hperm := sorted_members_perm le members
    rw [sorted_object, height_object, height_object]
    simp only [hperm.mem_iff, List.mem_map, forall_exists_index, and_imp,
      forall_apply_eq_imp_iff₂]
    exact forall₂_congr fun m hm => by rw [ih m hm]
  | _ => rfl

end Sorted

/-- **Sorting twice is sorting once.** -/
theorem sorted_sorted (le : S → S → Prop) [DecidableRel le] [IsTrans S le] [Std.Total le]
    (v : JsonValue N S) : sorted le (sorted le v) = sorted le v := by
  induction v using rule with
  | array entries ih =>
    rw [sorted_array, sorted_array, List.map_map]
    exact congrArg _ (List.map_congr_left ih)
  | object members ih =>
    have htrans : IsTrans (S × JsonValue N S) fun a b => le a.1 b.1 :=
      ⟨fun a b c => IsTrans.trans a.1 b.1 c.1⟩
    have htotal : Std.Total fun a b : S × JsonValue N S => le a.1 b.1 :=
      ⟨fun a b => Std.Total.total a.1 b.1⟩
    have hmap := @List.map_insertionSort _ _
      (fun a b : S × JsonValue N S => le a.1 b.1) (fun a b : S × JsonValue N S => le a.1 b.1)
      _ _ (fun m => (m.1, sorted le m.2)) (members.map fun m => (m.1, sorted le m.2))
      fun a _ b _ => Iff.rfl
    have hagain : (members.map fun m => (m.1, sorted le m.2)).map (fun m => (m.1, sorted le m.2)) =
        members.map fun m => (m.1, sorted le m.2) := by
      rw [List.map_map]
      refine List.map_congr_left fun m hm => ?_
      simp only [Function.comp_apply, ih m hm]
    rw [sorted_object, sorted_object, hmap, hagain,
      (List.pairwise_insertionSort (fun a b : S × JsonValue N S => le a.1 b.1)
        _).insertionSort_eq]
  | _ => rfl

theorem Shallow.ofKeys (q : List S → Prop) (harray : ∀ entries, p (.array entries))
    (hobject : ∀ members, p (.object members) ↔ q (members.map (·.1)))
    (hq : ∀ ks ks', ks.Perm ks' → (q ks ↔ q ks')) : Shallow p where
  array es es' _ := propext ⟨fun _ => harray es', fun _ => harray es⟩
  object ms ms' h := propext (by rw [hobject, hobject, hq _ _ h])

theorem Shallow.ofEveryKey (r : S → Prop) (harray : ∀ entries, p (.array entries))
    (hobject : ∀ members, p (.object members) ↔ ∀ m ∈ members, r m.1) : Shallow p := by
  refine Shallow.ofKeys (fun ks => ∀ k ∈ ks, r k) harray (fun members => ?_) fun ks ks' h => ?_
  · rw [hobject, List.forall_mem_map]
  · simp only [h.mem_iff]

theorem shallow_distinctKeys : Shallow (@DistinctKeys N S) :=
  Shallow.ofKeys List.Nodup (fun _ => trivial) (fun _ => Iff.rfl) fun _ _ h => h.nodup_iff

/-- Sorting and translating commute, when the order is read off the translated keys. -/
theorem map_sorted (f : N → N') (g : S → S') (le : S → S → Prop) [DecidableRel le]
    (le' : S' → S' → Prop) [DecidableRel le'] (hle : ∀ a b, le a b ↔ le' (g a) (g b))
    (v : JsonValue N S) : map f g (sorted le v) = sorted le' (map f g v) := by
  induction v using rule with
  | array entries ih =>
    rw [sorted_array, map_array, map_array, sorted_array, List.map_map, List.map_map]
    congr 1
    exact List.map_congr_left ih
  | object members ih =>
    rw [sorted_object, map_object, map_object, sorted_object,
      List.map_insertionSort _ (fun a b => le' a.1 b.1) _ _ fun a _ b _ => hle a.1 b.1,
      List.map_map, List.map_map]
    congr 2
    refine List.map_congr_left fun m hm => ?_
    simp only [Function.comp_apply, ih m hm]
  | _ => rfl

/-! ## Entries in another order -/

/-- **The same value, with the entries of its arrays in another order.** -/
inductive Rearranged : JsonValue N S → JsonValue N S → Prop
  | refl (v : JsonValue N S) : Rearranged v v
  | trans {u v w : JsonValue N S} : Rearranged u v → Rearranged v w → Rearranged u w
  | array {entries entries' : List (JsonValue N S)} :
      entries.Perm entries' → Rearranged (.array entries) (.array entries')
  | entry {before after : List (JsonValue N S)} {v v' : JsonValue N S} :
      Rearranged v v' → Rearranged (.array (before ++ v :: after)) (.array (before ++ v' :: after))
  | member {before after : List (S × JsonValue N S)} {key : S} {v v' : JsonValue N S} :
      Rearranged v v' →
        Rearranged (.object (before ++ (key, v) :: after)) (.object (before ++ (key, v') :: after))

theorem Rearranged.entries {entries entries' : List (JsonValue N S)}
    (h : List.Forall₂ Rearranged entries entries') :
    Rearranged (.array entries) (.array entries') := by
  suffices hbefore : ∀ before, Rearranged (.array (before ++ entries)) (.array (before ++ entries'))
    from hbefore []
  induction h with
  | nil => exact fun _ => .refl _
  | @cons v v' entries entries' hv _ ih =>
    intro before
    refine Rearranged.trans (Rearranged.entry hv) ?_
    have hrest := ih (before ++ [v'])
    rwa [List.append_assoc, List.append_assoc] at hrest

theorem Rearranged.members {members members' : List (S × JsonValue N S)}
    (h : List.Forall₂ (fun m m' => m.1 = m'.1 ∧ Rearranged m.2 m'.2) members members') :
    Rearranged (.object members) (.object members') := by
  suffices hbefore : ∀ before,
      Rearranged (.object (before ++ members)) (.object (before ++ members')) from hbefore []
  induction h with
  | nil => exact fun _ => .refl _
  | @cons m m' members members' hm _ ih =>
    intro before
    obtain ⟨key, v⟩ := m
    obtain ⟨key', v'⟩ := m'
    obtain ⟨rfl, hv⟩ := hm
    refine Rearranged.trans (Rearranged.member hv) ?_
    have hrest := ih (before ++ [(key, v')])
    rwa [List.append_assoc, List.append_assoc] at hrest

variable {v' : JsonValue N S}

/-- A weight that minds no order adds up to the same. -/
theorem total_rearranged {w : JsonValue N S → Nat} (hw : Shallow w) (h : Rearranged v v') :
    total w v = total w v' := by
  induction h with
  | refl v => rfl
  | trans _ _ ih₁ ih₂ => exact ih₁.trans ih₂
  | array hperm =>
    rw [total_array, total_array, hw.array _ _ hperm.length_eq, (hperm.map _).sum_eq]
  | @entry before after v v' _ ih =>
    have hlength : (before ++ v :: after).length = (before ++ v' :: after).length := by simp
    rw [total_array, total_array, hw.array _ _ hlength]
    simp [ih]
  | @member before after key v v' _ ih =>
    have hkeys : ((before ++ (key, v) :: after).map (·.1)).Perm
        ((before ++ (key, v') :: after).map (·.1)) := by simp
    rw [total_object, total_object, hw.object _ _ hkeys]
    simp [ih]

theorem all_rearranged (hp : Shallow p) (h : Rearranged v v') : All p v ↔ All p v' := by
  induction h with
  | refl v => rfl
  | trans _ _ ih₁ ih₂ => exact ih₁.trans ih₂
  | array hperm =>
    rw [all_array, all_array, hp.array _ _ hperm.length_eq]
    simp only [hperm.mem_iff]
  | @entry before after v v' _ ih =>
    have hlength : (before ++ v :: after).length = (before ++ v' :: after).length := by simp
    rw [all_array, all_array, hp.array _ _ hlength]
    simp only [List.forall_mem_append, List.forall_mem_cons, ih]
  | @member before after key v v' _ ih =>
    have hkeys : ((before ++ (key, v) :: after).map (·.1)).Perm
        ((before ++ (key, v') :: after).map (·.1)) := by simp
    rw [all_object, all_object, hp.object _ _ hkeys]
    simp only [List.forall_mem_append, List.forall_mem_cons, ih]

theorem height_rearranged (h : Rearranged v v') :
    height v = height v' := by
  induction h with
  | refl v => rfl
  | trans _ _ ih₁ ih₂ => exact ih₁.trans ih₂
  | array hperm =>
    refine eq_of_forall_ge_iff fun n => ?_
    rw [height_array, height_array]
    simp only [hperm.mem_iff]
  | entry _ ih =>
    refine eq_of_forall_ge_iff fun n => ?_
    rw [height_array, height_array]
    simp only [List.forall_mem_append, List.forall_mem_cons, ih]
  | member _ ih =>
    refine eq_of_forall_ge_iff fun n => ?_
    rw [height_object, height_object]
    simp only [List.forall_mem_append, List.forall_mem_cons, ih]

end JsonValue
