import AgentRoom.Contracts.Encoders

/-!
# What the server accepts

`assertPlainJSON` counts the values, the keys and the bytes of the strings as it walks a
value. Here the count is a sum over the value, so its acceptance is four bounds and a
property of every value within.
-/

namespace AgentRoom.Contracts

/-! ## Sums over a value -/

section Sums

variable {N S : Type}

/-- What a value adds to the count: itself, and its keys or indices. -/
def ownCount : JsonValue N S → Nat
  | .array entries => 1 + entries.length
  | .object members => 1 + members.length
  | _ => 1

/-- The values and keys within a value. -/
def valueCount (v : JsonValue N S) : Nat := v.total ownCount

theorem valueCount_array (entries : List (JsonValue N S)) :
    valueCount (.array entries) = 1 + entries.length + (entries.map valueCount).sum :=
  JsonValue.total_array ownCount entries

theorem valueCount_object (members : List (S × JsonValue N S)) :
    valueCount (.object members) =
      1 + members.length + (members.map fun m => valueCount m.2).sum :=
  JsonValue.total_object ownCount members

theorem valueCount_pos (v : JsonValue N S) : 1 ≤ valueCount v := by
  cases v with
  | array entries => rw [valueCount_array]; omega
  | object members => rw [valueCount_object]; omega
  | _ => exact Nat.le_refl 1

theorem shallow_ownCount : JsonValue.Shallow (@ownCount N S) where
  array _ _ h := congrArg (1 + ·) h
  object ms ms' h := by
    have hlen := h.length_eq
    rw [List.length_map, List.length_map] at hlen
    exact congrArg (1 + ·) hlen

variable {N' S' : Type}

theorem valueCount_map (f : N → N') (g : S → S') (v : JsonValue N S) :
    valueCount (v.map f g) = valueCount v := by
  unfold valueCount
  rw [JsonValue.total_map]
  congr 1
  refine funext fun u => ?_
  cases u with
  | array entries => rw [JsonValue.map_array, ownCount, ownCount, List.length_map]
  | object members => rw [JsonValue.map_object, ownCount, ownCount, List.length_map]
  | _ => rfl

theorem valueCount_sorted (le : S → S → Prop) [DecidableRel le] (v : JsonValue N S) :
    valueCount (v.sorted le) = valueCount v :=
  JsonValue.total_sorted le shallow_ownCount v

end Sums

/-- The bytes of the indices from `index` on. -/
def indexText : Nat → Nat → Nat
  | _, 0 => 0
  | index, n + 1 => unitsByteLength (indexKey index) + indexText (index + 1) n

section Server

variable (D : Doubles)

/-- The bytes of the strings, keys and indices a value adds. -/
def ownText : JsValue D → Nat
  | .string units => unitsByteLength units
  | .array entries => indexText 0 entries.length
  | .object members => (members.map fun m => unitsByteLength m.1).sum
  | _ => 0

/-- The bytes of all strings, keys and indices. -/
def valueText (v : JsValue D) : Nat := v.total (ownText D)

theorem valueText_array (entries : List (JsValue D)) :
    valueText D (.array entries) =
      indexText 0 entries.length + (entries.map (valueText D)).sum :=
  JsonValue.total_array (ownText D) entries

theorem valueText_object (members : List (List UInt16 × JsonValue D.Double (List UInt16))) :
    valueText D (.object members) = (members.map fun m => unitsByteLength m.1).sum +
      (members.map fun m => valueText D m.2).sum :=
  JsonValue.total_object (ownText D) members

theorem shallow_ownText : JsonValue.Shallow (ownText D) where
  array _ _ h := congrArg (indexText 0) h
  object ms ms' h := by
    have hsum := (h.map unitsByteLength).sum_eq
    rw [List.map_map, List.map_map] at hsum
    exact hsum

/-- What `assertPlainJSON` asks of a value, its bounds and the values within aside. -/
def JsPlain : JsValue D → Prop
  | .number d => SafeInteger (D.value d)
  | .string units => isWellFormed units = true
  | .object members => ∀ m ∈ members, reserved m.1 = false ∧ isWellFormed m.1 = true
  | _ => True

/-! ## One visit -/

theorem bind_eq_ok {ε α β : Type} {x : Except ε α} {f : α → Except ε β} {b : β} :
    x >>= f = .ok b ↔ ∃ a, x = .ok a ∧ f a = .ok b := by
  cases x with
  | error e => exact ⟨nofun, nofun⟩
  | ok a => exact ⟨fun h => ⟨a, rfl, h⟩, fun ⟨_, ha, h⟩ => by cases ha; exact h⟩

theorem enter_ok {depth : Nat} {t t' : Tally} :
    enter depth t = .ok t' ↔
      (t.count + 1 ≤ maximumValues ∧ depth ≤ 24) ∧ t' = { t with count := t.count + 1 } := by
  unfold enter
  split
  · next h => rw [Except.ok.injEq, eq_comm]; exact ⟨fun he => ⟨h, he⟩, fun he => he.2⟩
  · next h => exact ⟨nofun, fun he => absurd he.1 h⟩

theorem visitString_ok {units : List UInt16} {depth : Nat} {t t' : Tally} :
    visitString units depth t = .ok t' ↔
      (t.count + 1 ≤ maximumValues ∧ depth ≤ 24) ∧
      t.textSize + unitsByteLength units ≤ maximumBytes ∧ isWellFormed units = true ∧
      t' = { count := t.count + 1, textSize := t.textSize + unitsByteLength units } := by
  unfold visitString
  simp only [bind_eq_ok, enter_ok]
  constructor
  · rintro ⟨_, ⟨hin, rfl⟩, h⟩
    dsimp only at h
    split at h
    · next htext =>
      split at h
      · next hwell =>
        cases h
        exact ⟨hin, htext, hwell, rfl⟩
      · cases h
    · cases h
  · rintro ⟨hin, htext, hwell, rfl⟩
    refine ⟨_, ⟨hin, rfl⟩, ?_⟩
    rw [if_pos (by exact htext), if_pos hwell]

/-- **A value within the bounds** that are left at some depth. -/
structure Fits (v : JsValue D) (depth : Nat) (t : Tally) : Prop where
  plain : v.All (JsPlain D)
  depth : depth + v.height ≤ 24
  count : t.count + valueCount v ≤ maximumValues
  text : t.textSize + valueText D v ≤ maximumBytes

def Tally.after (t : Tally) (v : JsValue D) : Tally where
  count := t.count + valueCount v
  textSize := t.textSize + valueText D v

/-- What `visit` does to a value. -/
def Visits (v : JsValue D) : Prop :=
  ∀ depth t t', t.textSize ≤ maximumBytes →
    (visit D v depth t = .ok t' ↔ Fits D v depth t ∧ t' = t.after D v)

theorem visitEntries_ok {entries : List (JsValue D)} (ih : ∀ e ∈ entries, Visits D e)
    (index depth : Nat) (t t' : Tally) (hcount : t.count ≤ maximumValues)
    (htext : t.textSize ≤ maximumBytes) :
    visitEntries D entries index depth t = .ok t' ↔
      (∀ e ∈ entries, e.All (JsPlain D) ∧ depth + e.height ≤ 24) ∧
      t.count + entries.length + (entries.map valueCount).sum ≤ maximumValues ∧
      t.textSize + indexText index entries.length + (entries.map (valueText D)).sum ≤
        maximumBytes ∧
      t' = { count := t.count + entries.length + (entries.map valueCount).sum
             textSize := t.textSize + indexText index entries.length +
               (entries.map (valueText D)).sum } := by
  induction entries generalizing index t with
  | nil => simp [visitEntries, indexText, hcount, htext, eq_comm]
  | cons e entries ihs =>
    rw [List.forall_mem_cons] at ih
    have hindex : isWellFormed (indexKey index) = true := by
      unfold isWellFormed indexKey
      rw [Utf16.decode_encode]
      rfl
    simp only [visitEntries, bind_eq_ok, visitString_ok, List.forall_mem_cons,
      List.length_cons, List.map_cons, List.sum_cons, indexText]
    constructor
    · rintro ⟨_, ⟨⟨hin, hdepth⟩, hkey, -, rfl⟩, t₁, hvisit, hrest⟩
      obtain ⟨hfits, rfl⟩ := (ih.1 depth _ _ hkey).mp hvisit
      have hc := hfits.count
      have ht := hfits.text
      obtain ⟨hall, hcs, hts, rfl⟩ := (ihs ih.2 _ _ hc ht).mp hrest
      dsimp only [Tally.after] at hc ht hcs hts ⊢
      refine ⟨⟨⟨hfits.plain, hfits.depth⟩, hall⟩, by omega, by omega, ?_⟩
      congr 1 <;> omega
    · rintro ⟨⟨⟨hplain, hdepth⟩, hall⟩, hcs, hts, rfl⟩
      have hpos := valueCount_pos e
      refine ⟨_, ⟨⟨by omega, by omega⟩, by omega, hindex, rfl⟩, _,
        (ih.1 depth _ _ (by dsimp only; omega)).mpr ⟨⟨hplain, hdepth, ?_, ?_⟩, rfl⟩, ?_⟩
      · dsimp only; omega
      · dsimp only; omega
      · refine (ihs ih.2 _ _ ?_ ?_).mpr ⟨hall, ?_, ?_, ?_⟩ <;> dsimp only [Tally.after]
        · omega
        · omega
        · omega
        · omega
        · congr 1 <;> omega

theorem visitMembers_ok {members : List (List UInt16 × JsonValue D.Double (List UInt16))}
    (ih : ∀ m ∈ members, Visits D m.2) (depth : Nat) (t t' : Tally)
    (hcount : t.count ≤ maximumValues) (htext : t.textSize ≤ maximumBytes) :
    visitMembers D members depth t = .ok t' ↔
      (∀ m ∈ members, reserved m.1 = false ∧ isWellFormed m.1 = true) ∧
      (∀ m ∈ members, m.2.All (JsPlain D) ∧ depth + m.2.height ≤ 24) ∧
      t.count + members.length + (members.map fun m => valueCount m.2).sum ≤ maximumValues ∧
      t.textSize + (members.map fun m => unitsByteLength m.1).sum +
        (members.map fun m => valueText D m.2).sum ≤ maximumBytes ∧
      t' = { count := t.count + members.length + (members.map fun m => valueCount m.2).sum
             textSize := t.textSize + (members.map fun m => unitsByteLength m.1).sum +
               (members.map fun m => valueText D m.2).sum } := by
  induction members generalizing t with
  | nil =>
    rw [visitMembers, Except.ok.injEq, eq_comm]
    exact ⟨fun h => ⟨nofun, nofun, hcount, htext, h⟩, fun h => h.2.2.2.2⟩
  | cons m members ihs =>
    obtain ⟨key, v⟩ := m
    rw [List.forall_mem_cons] at ih
    simp only [visitMembers, List.forall_mem_cons, List.length_cons, List.map_cons,
      List.sum_cons]
    constructor
    · intro h
      split at h
      · cases h
      next hreserved =>
      simp only [bind_eq_ok, visitString_ok] at h
      -- the key is counted, then its value, then the other members
      obtain ⟨_, ⟨⟨hin, hdepth⟩, hkey, hwell, rfl⟩, t₁, hvisit, hrest⟩ := h
      obtain ⟨hfits, rfl⟩ := (ih.1 depth _ _ hkey).mp hvisit
      have hc := hfits.count
      have ht := hfits.text
      obtain ⟨hkeys, hall, hcs, hts, rfl⟩ := (ihs ih.2 _ hc ht).mp hrest
      dsimp only [Tally.after] at hc ht hcs hts ⊢
      refine ⟨⟨⟨by simpa using hreserved, hwell⟩, hkeys⟩, ⟨⟨hfits.plain, hfits.depth⟩, hall⟩,
        by omega, by omega, ?_⟩
      congr 1 <;> omega
    · rintro ⟨⟨⟨hreserved, hwell⟩, hkeys⟩, ⟨⟨hplain, hdepth⟩, hall⟩, hcs, hts, rfl⟩
      have hpos := valueCount_pos v
      rw [if_neg (by simp [hreserved])]
      simp only [bind_eq_ok, visitString_ok]
      refine ⟨_, ⟨⟨by omega, by omega⟩, by omega, hwell, rfl⟩, _,
        (ih.1 depth _ _ (by dsimp only; omega)).mpr ⟨⟨hplain, hdepth, ?_, ?_⟩, rfl⟩, ?_⟩
      · dsimp only; omega
      · dsimp only; omega
      · refine (ihs ih.2 _ ?_ ?_).mpr ⟨hkeys, hall, ?_, ?_, ?_⟩ <;> dsimp only [Tally.after]
        · omega
        · omega
        · omega
        · omega
        · congr 1 <;> omega

/-- **What `visit` accepts**, and how it counts. -/
theorem visit_ok (v : JsValue D) : Visits D v := by
  induction v using JsonValue.rule with
  | null | bool b =>
    intro depth t t' htext
    rw [visit, enter_ok]
    constructor
    · rintro ⟨⟨hcount, hdepth⟩, rfl⟩
      exact ⟨⟨trivial, hdepth, hcount, htext⟩, rfl⟩
    · rintro ⟨hfits, rfl⟩
      exact ⟨⟨hfits.count, hfits.depth⟩, rfl⟩
  | number d =>
    intro depth t t' htext
    simp only [visit, bind_eq_ok, enter_ok]
    constructor
    · rintro ⟨_, ⟨⟨hcount, hdepth⟩, rfl⟩, h⟩
      split at h
      · next hsafe =>
        cases h
        exact ⟨⟨hsafe, hdepth, hcount, htext⟩, rfl⟩
      · cases h
    · rintro ⟨hfits, rfl⟩
      exact ⟨_, ⟨⟨hfits.count, hfits.depth⟩, rfl⟩, if_pos hfits.plain⟩
  | string units =>
    intro depth t t' htext
    rw [visit, visitString_ok]
    constructor
    · rintro ⟨⟨hcount, hdepth⟩, hsize, hwell, rfl⟩
      exact ⟨⟨hwell, hdepth, hcount, hsize⟩, rfl⟩
    · rintro ⟨hfits, rfl⟩
      exact ⟨⟨hfits.count, hfits.depth⟩, hfits.text, hfits.plain, rfl⟩
  -- a container is counted before what is in it, one level up
  | array entries ih =>
    intro depth t t' htext
    have hheight := JsonValue.height_array entries
    have hentries := visitEntries_ok D ih 0 (depth + 1)
      { count := t.count + 1, textSize := t.textSize } t'
    simp only [visit, bind_eq_ok, enter_ok]
    constructor
    · rintro ⟨_, ⟨⟨hcount, hdepth⟩, rfl⟩, h⟩
      split at h
      · obtain ⟨hall, hc, ht, rfl⟩ := (hentries hcount htext).mp h
        dsimp only at hc ht
        refine ⟨⟨(JsonValue.all_array _ _).mpr ⟨trivial, fun e he => (hall e he).1⟩, ?_, ?_, ?_⟩,
          ?_⟩
        · have := (hheight (24 - depth)).mpr fun e he => by have := (hall e he).2; omega
          omega
        · rw [valueCount_array]; omega
        · rw [valueText_array]; omega
        · rw [Tally.after, valueCount_array, valueText_array]
          dsimp only
          congr 1 <;> omega
      · cases h
    · rintro ⟨⟨hplain, hdepth, hcount, hsize⟩, rfl⟩
      -- back: the parts of the tally fit, since all of it does
      rw [valueCount_array] at hcount
      rw [valueText_array] at hsize
      refine ⟨_, ⟨⟨by omega, by omega⟩, rfl⟩, ?_⟩
      rw [if_pos (by omega)]
      refine (hentries (by dsimp only; omega) htext).mpr
        ⟨fun e he => ⟨((JsonValue.all_array _ _).mp hplain).2 e he, ?_⟩, ?_, ?_, ?_⟩
      · have := (hheight (24 - depth)).mp (by omega) e he
        omega
      · dsimp only; omega
      · dsimp only; omega
      · rw [Tally.after, valueCount_array, valueText_array]
        dsimp only
        congr 1 <;> omega
  | object members ih =>
    intro depth t t' htext
    have hheight := JsonValue.height_object members
    have hmembers := visitMembers_ok D ih (depth + 1)
      { count := t.count + 1, textSize := t.textSize } t'
    simp only [visit, bind_eq_ok, enter_ok]
    constructor
    · rintro ⟨_, ⟨⟨hcount, hdepth⟩, rfl⟩, h⟩
      obtain ⟨hkeys, hall, hc, ht, rfl⟩ := (hmembers hcount htext).mp h
      dsimp only at hc ht
      refine ⟨⟨(JsonValue.all_object _ _).mpr ⟨hkeys, fun m hm => (hall m hm).1⟩, ?_, ?_, ?_⟩,
        ?_⟩
      · have := (hheight (24 - depth)).mpr fun m hm => by have := (hall m hm).2; omega
        omega
      · rw [valueCount_object]; omega
      · rw [valueText_object]; omega
      · rw [Tally.after, valueCount_object, valueText_object]
        dsimp only
        congr 1 <;> omega
    · rintro ⟨⟨hplain, hdepth, hcount, hsize⟩, rfl⟩
      rw [valueCount_object] at hcount
      rw [valueText_object] at hsize
      refine ⟨_, ⟨⟨by omega, by omega⟩, rfl⟩, ?_⟩
      rw [JsonValue.all_object] at hplain
      refine (hmembers (by dsimp only; omega) htext).mpr
        ⟨hplain.1, fun m hm => ⟨hplain.2 m hm, ?_⟩, ?_, ?_, ?_⟩
      · have := (hheight (24 - depth)).mp (by omega) m hm
        omega
      · dsimp only; omega
      · dsimp only; omega
      · rw [Tally.after, valueCount_object, valueText_object]
        dsimp only
        congr 1 <;> omega

/-- **What the server accepts**, and what it writes. -/
theorem canonicalExecutionJSON_ok (v : JsValue D) (text : List Char) :
    canonicalExecutionJSON D v = .ok text ↔
      (v.All (JsPlain D) ∧ v.height ≤ 24 ∧ valueCount v ≤ maximumValues ∧
        valueText D v ≤ maximumBytes) ∧
      byteLength (JsonText.write (serverTree D v)) ≤ maximumBytes ∧
      text = JsonText.write (serverTree D v) := by
  have hvisit := visit_ok D v 0 { count := 0, textSize := 0 }
  unfold canonicalExecutionJSON assertPlainJSON
  simp only [bind_eq_ok, canonicalValue_eq]
  constructor
  · rintro ⟨_, ⟨t', ht', -⟩, h⟩
    obtain ⟨hfits, -⟩ := (hvisit t' (Nat.zero_le _)).mp ht'
    split at h
    · next hbytes =>
      cases h
      exact ⟨⟨hfits.plain, by simpa using hfits.depth, by simpa using hfits.count,
        by simpa using hfits.text⟩, hbytes, rfl⟩
    · cases h
  · rintro ⟨⟨hplain, hdepth, hcount, htext⟩, hbytes, rfl⟩
    refine ⟨(), ⟨_, (hvisit _ (Nat.zero_le _)).mpr ⟨⟨hplain, by simpa using hdepth,
      by simpa using hcount, by simpa using htext⟩, rfl⟩, rfl⟩, ?_⟩
    rw [if_pos hbytes]

end Server

end AgentRoom.Contracts
