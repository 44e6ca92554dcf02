import AgentRoom.Contracts.ExecutionJson

/-!
# What the two encoders write

Each encoder writes the value's tree with its members in the order of their code
units. The server's tree has the texts of its doubles, the Bridge's the decimal
numerals of its integers, and the two escape the same characters the same way.
-/

namespace AgentRoom.Contracts

open JsonText (Numeral Tree)

/-! ## Joining -/

theorem join_cons (part : List Char) (parts : List (List Char)) :
    join (part :: parts) = part ++ parts.flatMap (',' :: ·) := by
  induction parts generalizing part with
  | nil => simp [join]
  | cons next parts ih =>
    have hstep : join (part :: next :: parts) = part ++ ',' :: join (next :: parts) := by
      simp [join, List.intercalate, List.intersperse]
    rw [hstep, ih, List.flatMap_cons]
    rfl

theorem byteLength_append (s t : List Char) :
    byteLength (s ++ t) = byteLength s + byteLength t := by
  unfold byteLength utf8
  rw [List.flatMap_append, List.length_append]

theorem writeEntries_eq (entries : List Tree) :
    JsonText.writeEntries entries =
      (entries.map JsonText.write).flatMap (',' :: ·) ++ [']'] := by
  induction entries with
  | nil => rfl
  | cons entry entries ih => simp [JsonText.writeEntries, ih]

def memberText (m : List UInt16 × Tree) : List Char :=
  JsonText.quote m.1 ++ ':' :: JsonText.write m.2

theorem writeMembers_eq (members : List (List UInt16 × Tree)) :
    JsonText.writeMembers members = (members.map memberText).flatMap (',' :: ·) ++ ['}'] := by
  induction members with
  | nil => rfl
  | cons m members ih =>
    obtain ⟨key, value⟩ := m
    simp [JsonText.writeMembers, ih, memberText]

theorem write_array (entries : List Tree) :
    JsonText.write (.array entries) = '[' :: join (entries.map JsonText.write) ++ [']'] := by
  cases entries with
  | nil => rfl
  | cons entry entries =>
    rw [JsonText.write, writeEntries_eq, List.map_cons, join_cons]
    simp

theorem write_object (members : List (List UInt16 × Tree)) :
    JsonText.write (.object members) = '{' :: join (members.map memberText) ++ ['}'] := by
  cases members with
  | nil => rfl
  | cons m members =>
    obtain ⟨key, value⟩ := m
    rw [JsonText.write, writeMembers_eq, List.map_cons, join_cons]
    simp [memberText]

/-! ## The server's text -/

section JavaScript

variable (D : Doubles)

def serverTree (v : JsValue D) : Tree := (v.map D.text id).sorted unitsLe

theorem canonicalEntries_eq (entries : List (JsValue D)) :
    canonicalEntries D entries = entries.map (canonicalValue D) := by
  induction entries with
  | nil => rfl
  | cons entry entries ih => rw [canonicalEntries, ih, List.map_cons]

theorem canonicalMembers_eq (members : List (List UInt16 × JsValue D)) :
    canonicalMembers D members = members.map fun m => (m.1, canonicalValue D m.2) := by
  induction members with
  | nil => rfl
  | cons m members ih => rw [canonicalMembers, ih, List.map_cons]

/-- **What `canonicalValue` writes.** -/
theorem canonicalValue_eq (v : JsValue D) :
    canonicalValue D v = JsonText.write (serverTree D v) := by
  unfold serverTree
  induction v using JsonValue.rule with
  | null => rfl
  | bool b => cases b <;> rfl
  | number d => rfl
  | string units => rfl
  | array entries ih =>
    rw [canonicalValue, canonicalEntries_eq, JsonValue.map_array, JsonValue.sorted_array,
      write_array, List.map_map, List.map_map]
    congr 3
    exact List.map_congr_left ih
  | object members ih =>
    rw [canonicalValue, canonicalMembers_eq, JsonValue.map_object, JsonValue.sorted_object,
      write_object, List.map_map]
    have hmap := @List.map_insertionSort _ _
      (fun a b : List UInt16 × Tree => unitsLe a.1 b.1)
      (fun a b : List UInt16 × List Char => unitsLe a.1 b.1) _ _
      (fun m => (m.1, JsonText.write m.2))
      (members.map fun m => (m.1, (m.2.map D.text id).sorted unitsLe))
      fun a _ b _ => Iff.rfl
    have hsort : (members.map fun m => (m.1, canonicalValue D m.2)) =
        (members.map fun m => (m.1, (m.2.map D.text id).sorted unitsLe)).map
          fun m => (m.1, JsonText.write m.2) := by
      rw [List.map_map]
      refine List.map_congr_left fun m hm => ?_
      simp only [Function.comp_apply, ih m hm]
    rw [hsort, ← hmap, List.map_map]
    rfl

end JavaScript

/-! ## The Bridge's text -/

theorem appendRune_eq (c : Char) : appendRune c = JsonText.escapeChar c := by
  unfold appendRune JsonText.escapeChar
  by_cases hquote : c = '"'
  · rw [if_pos (.inl hquote), if_pos hquote, hquote]
  by_cases hslash : c = '\\'
  · rw [if_pos (.inr hslash), if_neg hquote, if_pos hslash, hslash]
  rw [if_neg (by simp [hquote, hslash]), if_neg hquote, if_neg hslash]
  repeat
    split
    · rfl
  split
  · next hcontrol =>
    have hunit := Utf16.toNat_unit (show c.toNat < 0x10000 by omega)
    unfold JsonText.hexEscape
    rw [hunit]
    have hfirst : c.toNat / 4096 = 0 := by omega
    have hsecond : c.toNat / 256 % 16 = 0 := by omega
    have hthird : c.toNat / 16 % 16 = c.toNat / 16 := by omega
    rw [hfirst, hsecond, hthird]
    rfl
  · rfl

theorem escape_plain {u : UInt16} (hhigh : Utf16.isHigh u = false) (hlow : Utf16.isLow u = false)
    (us : List UInt16) :
    JsonText.escape (u :: us) = JsonText.escapeChar (Char.ofNat u.toNat) ++ JsonText.escape us := by
  cases us with
  | nil => simp [JsonText.escape, hhigh, hlow]
  | cons v us => simp [JsonText.escape, hhigh, hlow]

theorem escapeChar_beyond {c : Char} (h : ¬ c.toNat < 0x10000) : JsonText.escapeChar c = [c] := by
  have hne : ∀ d : Char, d.toNat < 0x10000 → c ≠ d := by
    intro d hd heq
    rw [heq] at h
    exact h hd
  unfold JsonText.escapeChar
  rw [if_neg (hne _ (by decide)), if_neg (hne _ (by decide)), if_neg (hne _ (by decide)),
    if_neg (hne _ (by decide)), if_neg (hne _ (by decide)), if_neg (hne _ (by decide)),
    if_neg (hne _ (by decide)), if_neg (by omega)]

theorem escape_pair {c : Char} (h : ¬ c.toNat < 0x10000) (us : List UInt16) :
    JsonText.escape (UInt16.ofNat (0xD800 + (c.toNat - 0x10000) / 0x400) ::
      UInt16.ofNat (0xDC00 + (c.toNat - 0x10000) % 0x400) :: us) =
      JsonText.escapeChar c ++ JsonText.escape us := by
  have hvalid := Utf16.toNat_valid c
  have hdiv : (c.toNat - 0x10000) / 0x400 < 0x400 := by omega
  have hmod : (c.toNat - 0x10000) % 0x400 < 0x400 := Nat.mod_lt _ (by decide)
  have hfirst := @Utf16.toNat_unit (0xD800 + (c.toNat - 0x10000) / 0x400) (by omega)
  have hsecond := @Utf16.toNat_unit (0xDC00 + (c.toNat - 0x10000) % 0x400) (by omega)
  have hhigh : Utf16.isHigh (UInt16.ofNat (0xD800 + (c.toNat - 0x10000) / 0x400)) = true := by
    unfold Utf16.isHigh
    rw [hfirst]
    simp
    omega
  have hlow : Utf16.isLow (UInt16.ofNat (0xDC00 + (c.toNat - 0x10000) % 0x400)) = true := by
    unfold Utf16.isLow
    rw [hsecond]
    simp
    omega
  have hpair : Utf16.pair (UInt16.ofNat (0xD800 + (c.toNat - 0x10000) / 0x400))
      (UInt16.ofNat (0xDC00 + (c.toNat - 0x10000) % 0x400)) = c := by
    have hunits := Utf16.units_pair hhigh hlow
    refine Utf16.encode_injective ?_ |> List.singleton_inj.mp
    rw [Utf16.encode_cons, Utf16.encode_cons, hunits]
    simp [Utf16.units, h]
  rw [escapeChar_beyond h, JsonText.escape, if_pos (by rw [hhigh, hlow]; rfl), hpair]
  rfl

/-- The escapes of a text are the escapes of its characters. -/
theorem escape_encode (text : List Char) :
    JsonText.escape (Utf16.encode text) = text.flatMap JsonText.escapeChar := by
  induction text with
  | nil => rfl
  | cons c text ih =>
    rw [Utf16.encode_cons, List.flatMap_cons, ← ih]
    have hvalid := Utf16.toNat_valid c
    unfold Utf16.units
    split
    · next hlt =>
      have hunit := Utf16.toNat_unit hlt
      rw [List.singleton_append, escape_plain, hunit, Char.ofNat_toNat]
      · simp only [Utf16.isHigh, hunit]
        simp
        omega
      · simp only [Utf16.isLow, hunit]
        simp
        omega
    · next hge => exact escape_pair hge (Utf16.encode text)

theorem appendExecutionString_eq (value : List Char) :
    appendExecutionString value = JsonText.quote (Utf16.encode value) := by
  unfold appendExecutionString JsonText.quote
  rw [escape_encode]
  congr 2
  exact congrArg value.flatMap (funext appendRune_eq)

/-- What `appendExecutionJSON` accepts of a value, the values within it aside. -/
def GoPlain : GoValue → Prop
  | .number numeral => SafeInteger numeral.value
  | .object members => ∀ m ∈ members, m.1 ∉ reservedKeys
  | _ => True

/-- The integer a numeral stands for, in decimal. -/
def integerNumeral (q : ℚ) : Numeral := Numeral.ofInt q.num

def bridgeTree (g : GoValue) : Tree :=
  (g.map (fun numeral => integerNumeral numeral.value) Utf16.encode).sorted unitsLe

theorem appendEntries_some {entries : List GoValue} {P : GoValue → Prop}
    {write : GoValue → List Char}
    (h : ∀ e ∈ entries, ∀ text, appendExecutionJSON e = some text ↔ P e ∧ text = write e)
    (texts : List (List Char)) :
    appendEntries entries = some texts ↔ (∀ e ∈ entries, P e) ∧ texts = entries.map write := by
  induction entries generalizing texts with
  | nil => simp [appendEntries, eq_comm]
  | cons e entries ih =>
    rw [List.forall_mem_cons] at h
    simp only [appendEntries, Option.bind_eq_bind, Option.bind_eq_some_iff, h.1, ih h.2,
      Option.pure_def, Option.some.injEq, List.forall_mem_cons, List.map_cons]
    constructor
    · rintro ⟨_, ⟨he, rfl⟩, _, ⟨hes, rfl⟩, rfl⟩
      exact ⟨⟨he, hes⟩, rfl⟩
    · rintro ⟨⟨he, hes⟩, rfl⟩
      exact ⟨_, ⟨he, rfl⟩, _, ⟨hes, rfl⟩, rfl⟩

theorem appendMembers_some {members : List (List Char × GoValue)} {P : GoValue → Prop}
    {write : GoValue → List Char}
    (h : ∀ m ∈ members, ∀ text, appendExecutionJSON m.2 = some text ↔ P m.2 ∧ text = write m.2)
    (texts : List (List Char × List Char)) :
    appendMembers members = some texts ↔
      (∀ m ∈ members, P m.2) ∧ texts = members.map fun m => (m.1, write m.2) := by
  induction members generalizing texts with
  | nil => simp [appendMembers, eq_comm]
  | cons m members ih =>
    rw [List.forall_mem_cons] at h
    simp only [appendMembers, Option.bind_eq_bind, Option.bind_eq_some_iff, h.1, ih h.2,
      Option.pure_def, Option.some.injEq, List.forall_mem_cons, List.map_cons]
    constructor
    · rintro ⟨_, ⟨he, rfl⟩, _, ⟨hes, rfl⟩, rfl⟩
      exact ⟨⟨he, hes⟩, rfl⟩
    · rintro ⟨⟨he, hes⟩, rfl⟩
      exact ⟨_, ⟨he, rfl⟩, _, ⟨hes, rfl⟩, rfl⟩

/-- The members of an object, sorted by their runes, are written as their trees are. -/
theorem bridgeTree_object (members : List (List Char × GoValue)) :
    JsonText.write (bridgeTree (.object members)) =
      '{' :: join (((members.map fun m => (m.1, JsonText.write (bridgeTree m.2))).insertionSort
        fun a b => runesLe a.1 b.1).map
          fun (key, text) => appendExecutionString key ++ ':' :: text) ++ ['}'] := by
  have hmap := @List.map_insertionSort _ _
    (fun a b : List Char × GoValue => runesLe a.1 b.1)
    (fun a b : List UInt16 × Tree => unitsLe a.1 b.1) _ _
    (fun m => (Utf16.encode m.1, bridgeTree m.2)) members fun a _ b _ => Iff.rfl
  have hmap' := @List.map_insertionSort _ _
    (fun a b : List Char × GoValue => runesLe a.1 b.1)
    (fun a b : List Char × List Char => runesLe a.1 b.1) _ _
    (fun m => (m.1, JsonText.write (bridgeTree m.2))) members fun a _ b _ => Iff.rfl
  have hsorted : bridgeTree (.object members) =
      .object ((members.insertionSort fun a b => runesLe a.1 b.1).map
        fun m => (Utf16.encode m.1, bridgeTree m.2)) := by
    rw [hmap]
    unfold bridgeTree
    rw [JsonValue.map_object, JsonValue.sorted_object, List.map_map]
    rfl
  rw [hsorted, write_object, ← hmap', List.map_map, List.map_map]
  congr 4
  refine funext fun m => ?_
  simp only [Function.comp_apply, memberText, appendExecutionString_eq]

/-- **What `appendExecutionJSON` accepts and writes.** -/
theorem appendExecutionJSON_some (g : GoValue) (text : List Char) :
    appendExecutionJSON g = some text ↔
      g.All GoPlain ∧ text = JsonText.write (bridgeTree g) := by
  induction g using JsonValue.rule generalizing text with
  | null => simp [appendExecutionJSON, JsonValue.All, GoPlain, bridgeTree, JsonValue.map,
      JsonValue.sorted, JsonText.write, eq_comm]
  | bool b => cases b <;> simp [appendExecutionJSON, JsonValue.All, GoPlain, bridgeTree,
      JsonValue.map, JsonValue.sorted, JsonText.write, eq_comm]
  | number numeral =>
    rw [appendExecutionJSON]
    split
    · next h =>
      rw [Option.some.injEq, eq_comm]
      exact ⟨fun he => ⟨h, he⟩, fun he => he.2⟩
    · next h => exact ⟨(by intro h; cases h), fun he => absurd he.1 h⟩
  | string value =>
    rw [appendExecutionJSON, Option.some.injEq, appendExecutionString_eq, eq_comm]
    exact ⟨fun he => ⟨trivial, he⟩, fun he => he.2⟩
  | array entries ih =>
    have htree : JsonText.write (bridgeTree (.array entries)) =
        '[' :: join (entries.map fun e => JsonText.write (bridgeTree e)) ++ [']'] := by
      unfold bridgeTree
      rw [JsonValue.map_array, JsonValue.sorted_array, write_array, List.map_map, List.map_map]
      rfl
    rw [appendExecutionJSON, JsonValue.all_array, htree]
    simp only [Option.bind_eq_bind, Option.bind_eq_some_iff, appendEntries_some ih,
      Option.pure_def, Option.some.injEq]
    constructor
    · rintro ⟨_, ⟨hes, rfl⟩, rfl⟩
      exact ⟨⟨trivial, hes⟩, rfl⟩
    · rintro ⟨⟨-, hes⟩, rfl⟩
      exact ⟨_, ⟨hes, rfl⟩, rfl⟩
  | object members ih =>
    -- a reserved key is refused before anything is written
    have hreserved : members.any (reservedKeys.contains ·.1) = true ↔
        ¬ GoPlain (.object members) := by
      simp [GoPlain]
    rw [appendExecutionJSON, JsonValue.all_object, bridgeTree_object]
    split
    · next h => exact ⟨(by intro h; cases h), fun he => absurd he.1.1 (hreserved.mp h)⟩
    · next h =>
      rw [hreserved, not_not] at h
      have hmembers := @appendMembers_some members (JsonValue.All GoPlain)
        (fun e => JsonText.write (bridgeTree e)) ih
      simp only [Option.bind_eq_bind, Option.bind_eq_some_iff, hmembers, Option.pure_def,
        Option.some.injEq]
      constructor
      · rintro ⟨_, ⟨hes, rfl⟩, rfl⟩
        exact ⟨⟨h, hes⟩, rfl⟩
      · rintro ⟨⟨-, hes⟩, rfl⟩
        exact ⟨_, ⟨hes, rfl⟩, rfl⟩

end AgentRoom.Contracts
