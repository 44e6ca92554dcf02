import AgentRoom.Contracts.CanonicalAgreement

/-!
# The order of entries and the bounds

Every bound the server sets is a sum over the value or a property of each value within, and the
text is as long whatever order the entries of an array stand in. So a value is accepted in every
order of them, or in none.
-/

namespace AgentRoom.Contracts

open JsonText (Numeral Tree)

/-! ## The length of a text -/

/-- The bytes a tree adds to its text, the trees below it aside. -/
def ownBytes : Tree → Nat
  | .null => 4
  | .bool value => if value then 4 else 5
  | .number numeral => byteLength numeral.text
  | .string units => byteLength (JsonText.quote units)
  | .array entries => 2 + (entries.length - 1)
  | .object members => 2 + (members.length - 1) +
      (members.map fun m => byteLength (JsonText.quote m.1) + 1).sum

theorem shallow_ownBytes : JsonValue.Shallow ownBytes where
  array es es' h := by rw [ownBytes, ownBytes, h]
  object ms ms' h := by
    have hlength := h.length_eq
    have hsum := (h.map fun key => byteLength (JsonText.quote key) + 1).sum_eq
    rw [List.length_map, List.length_map] at hlength
    rw [List.map_map, List.map_map] at hsum
    rw [ownBytes, ownBytes, hlength]
    exact congrArg (2 + (ms'.length - 1) + ·) hsum

theorem byteLength_join (parts : List (List Char)) :
    byteLength (join parts) = (parts.length - 1) + (parts.map byteLength).sum := by
  have hcomma : byteLength [','] = 1 := by decide
  have hrest : ∀ parts : List (List Char),
      byteLength (parts.flatMap (',' :: ·)) = parts.length + (parts.map byteLength).sum := by
    intro parts
    induction parts with
    | nil => rfl
    | cons part parts ih =>
      rw [List.flatMap_cons, byteLength_append, ih, ← List.singleton_append, byteLength_append,
        hcomma, List.map_cons, List.sum_cons, List.length_cons]
      omega
  cases parts with
  | nil => rfl
  | cons part parts =>
    rw [join_cons, byteLength_append, hrest, List.map_cons, List.sum_cons, List.length_cons]
    omega

/-- **The length of a text** is a sum over its tree. -/
theorem byteLength_write (tree : Tree) :
    byteLength (JsonText.write tree) = tree.total ownBytes := by
  have hopen : byteLength ['['] = 1 := by decide
  have hclose : byteLength [']'] = 1 := by decide
  have hopen' : byteLength ['{'] = 1 := by decide
  have hclose' : byteLength ['}'] = 1 := by decide
  have hcolon : byteLength [':'] = 1 := by decide
  induction tree using JsonValue.rule with
  | null => decide
  | bool value => cases value <;> decide
  | number numeral => rfl
  | string units => rfl
  | array entries ih =>
    have hentries : entries.map (byteLength ∘ JsonText.write) =
        entries.map (JsonValue.total ownBytes) := List.map_congr_left ih
    rw [write_array, ← List.singleton_append, byteLength_append, byteLength_append, hopen,
      hclose, byteLength_join, JsonValue.total_array, List.length_map, List.map_map, hentries,
      ownBytes]
    omega
  | object members ih =>
    have hmember : ∀ m ∈ members, (byteLength ∘ memberText) m =
        (byteLength (JsonText.quote m.1) + 1) + m.2.total ownBytes := by
      intro m hm
      rw [Function.comp_apply, memberText, byteLength_append, ← List.singleton_append,
        byteLength_append, hcolon, ih m hm]
      omega
    rw [write_object, ← List.singleton_append, byteLength_append, byteLength_append, hopen',
      hclose', byteLength_join, JsonValue.total_object, List.length_map, List.map_map,
      List.map_congr_left hmember, List.sum_map_add, ownBytes]
    omega

/-! ## What the server accepts -/

section Server

variable {D : Doubles} {v v' : JsValue D}

theorem serverTree_eq_of_write
    (h : JsonText.write (serverTree D v) = JsonText.write (serverTree D v')) :
    serverTree D v = serverTree D v' := by
  have hparse := JsonText.parse_write (serverTree_valid v)
  rw [h, JsonText.parse_write (serverTree_valid v')] at hparse
  exact (Option.some.inj hparse).symm

theorem byteLength_rearranged (h : JsonValue.Rearranged v v') :
    byteLength (JsonText.write (serverTree D v)) =
      byteLength (JsonText.write (serverTree D v')) := by
  have hshallow : JsonValue.Shallow fun u : JsValue D => ownBytes (u.map D.text id) := by
    constructor
    · intro es es' hlength
      rw [JsonValue.map_array, JsonValue.map_array]
      exact shallow_ownBytes.array _ _ (by simpa using hlength)
    · intro ms ms' hkeys
      rw [JsonValue.map_object, JsonValue.map_object]
      refine shallow_ownBytes.object _ _ ?_
      rw [List.map_map, List.map_map]
      exact hkeys
  rw [byteLength_write, byteLength_write]
  unfold serverTree
  rw [JsonValue.total_sorted _ shallow_ownBytes, JsonValue.total_sorted _ shallow_ownBytes,
    JsonValue.total_map, JsonValue.total_map]
  exact JsonValue.total_rearranged hshallow h

/-- **The order of entries does not decide acceptance.** -/
theorem accepted_rearranged (h : JsonValue.Rearranged v v')
    (hv : ∃ text, canonicalExecutionJSON D v = .ok text) :
    ∃ text, canonicalExecutionJSON D v' = .ok text := by
  obtain ⟨text, htext⟩ := hv
  obtain ⟨⟨hplain, hheight, hcount, hsize⟩, hbytes, -⟩ :=
    (canonicalExecutionJSON_ok D v text).mp htext
  refine ⟨_, (canonicalExecutionJSON_ok D v' _).mpr ⟨⟨?_, ?_, ?_, ?_⟩, ?_, rfl⟩⟩
  · exact (JsonValue.all_rearranged (jsPlain_shallow D) h).mp hplain
  · rwa [← JsonValue.height_rearranged h]
  · have hsame : valueCount v = valueCount v' :=
      JsonValue.total_rearranged shallow_ownCount h
    rwa [← hsame]
  · have hsame : valueText D v = valueText D v' :=
      JsonValue.total_rearranged (shallow_ownText D) h
    rwa [← hsame]
  · rwa [← byteLength_rearranged h]

end Server

end AgentRoom.Contracts
