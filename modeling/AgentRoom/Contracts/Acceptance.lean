import AgentRoom.Contracts.CanonicalAgreement

/-!
# Where the two validators agree

Both sides ask the same of a value, up to two bounds of their own: the server sums the
bytes of all strings, keys and indices, and the Bridge's reader stops at fewer values and
fewer numbers than the server counts to.
-/

namespace AgentRoom.Contracts

open JsonText (Numeral Tree)

/-! ## A language of integers -/

/-- The integers among the doubles. -/
def integerDoubles : Doubles where
  Double := Int
  value i := i
  ofRat q := q.num
  text := Numeral.ofInt
  text_valid := JsonText.ofInt_valid
  text_back d := by rw [JsonText.ofInt_value, Rat.num_intCast]
  ofRat_integer i _ := by rw [Rat.num_intCast]
  text_integer d i _ h := by rw [Int.cast_injective h]

/-! ## What each side asks -/

/-- **What both sides ask** of a value. -/
structure Shared (D : Doubles) (v : JsValue D) : Prop where
  plain : v.All (JsPlain D)
  height : v.height ≤ 24
  count : valueCount v ≤ maximumValues
  bytes : byteLength (canonicalValue D v) ≤ maximumBytes

/-- The value is accepted for canonicalisation. -/
def ServerAccepts (D : Doubles) (v : JsJson D) : Prop :=
  ∃ text, canonicalExecutionJSON D v.value = .ok text

/-- Its canonical text is accepted by the Bridge. -/
def BridgeAccepts (D : Doubles) (v : JsJson D) : Prop :=
  ∃ out, canonicalExecutionText (canonicalValue D v.value) = some out

section Sides

variable {D : Doubles}

theorem serverAccepts_iff (v : JsJson D) :
    ServerAccepts D v ↔ Shared D v.value ∧ valueText D v.value ≤ maximumBytes := by
  unfold ServerAccepts
  simp only [canonicalExecutionJSON_ok]
  constructor
  · rintro ⟨text, ⟨hplain, hheight, hcount, htext⟩, hbytes, rfl⟩
    exact ⟨⟨hplain, hheight, hcount, by rwa [canonicalValue_eq]⟩, htext⟩
  · rintro ⟨⟨hplain, hheight, hcount, hbytes⟩, htext⟩
    rw [canonicalValue_eq] at hbytes
    exact ⟨_, ⟨hplain, hheight, hcount, htext⟩, hbytes, rfl⟩

theorem reserved_iff {key : List UInt16} (h : isWellFormed key = true) :
    reserved key = false ↔ goString key ∉ reservedKeys := by
  have hmem : reserved key = true ↔ goString key ∈ reservedKeys := by
    unfold reserved
    rw [List.any_eq_true]
    constructor
    · rintro ⟨k, hk, heq⟩
      rw [beq_iff_eq] at heq
      rw [← heq, goString_encode]
      exact hk
    · intro hk
      exact ⟨goString key, hk, by rw [encode_goString h]; exact beq_self_eq_true key⟩
  rw [← hmem, Bool.not_eq_true]

theorem safeInteger_text (d : D.Double) :
    SafeInteger (D.text d).value ↔ SafeInteger (D.value d) := by
  constructor
  · intro h
    have hback := D.text_back d
    rw [← safeInteger_num h, D.ofRat_integer _ h.2] at hback
    rw [← hback, safeInteger_num h]
    exact h
  · intro h
    have htext := D.text_integer d (D.value d).num h.2 (safeInteger_num h).symm
    rw [htext, JsonText.ofInt_value, safeInteger_num h]
    exact h

/-- What the server asks of each value is what the Bridge asks of its tree. -/
theorem jsPlain_iff (v : JsValue D) :
    v.All (JsPlain D) ↔
      v.All StringsPlain ∧ (bridgeValue (v.map D.text id)).All GoPlain := by
  unfold bridgeValue
  rw [JsonValue.map_map, JsonValue.all_map, ← JsonValue.all_and]
  have hsame : JsPlain D =
      fun u => StringsPlain u ∧ GoPlain (u.map (id ∘ D.text) (goString ∘ id)) := by
    funext u
    refine propext ?_
    cases u with
    | number d => exact (safeInteger_text d).symm.trans (and_iff_right trivial).symm
    | string units => exact (and_iff_left trivial).symm
    | array entries => rw [JsonValue.map_array]; exact (and_iff_left trivial).symm
    | object members =>
      rw [JsonValue.map_object, GoPlain, StringsPlain, List.forall_mem_map, ← forall₂_and]
      refine forall₂_congr fun m _ => ?_
      rw [and_comm]
      exact and_congr_right fun h => reserved_iff h
    | _ => exact (and_iff_left trivial).symm
  rw [hsame]

/-- **The server's text stands for the value** it was written from. -/
theorem treeMeaning_serverTree {v : JsValue D} (h : v.All (JsPlain D)) :
    treeMeaning (serverTree D v) = jsMeaning D v := by
  unfold treeMeaning serverTree jsMeaning
  rw [JsonValue.map_sorted _ id unitsLe unitsLe fun _ _ => Iff.rfl, JsonValue.map_map,
    JsonValue.sorted_sorted]
  congr 1
  refine JsonValue.map_congr (h.imp fun u hu => ?_)
  cases u with
  | number d =>
    have htext := D.text_integer d (D.value d).num hu.2 (safeInteger_num hu).symm
    change (D.text d).value = D.value d
    rw [htext, JsonText.ofInt_value]
    exact safeInteger_num hu
  | string units => rfl
  | object members => exact fun _ _ => rfl
  | _ => trivial

theorem serverTree_tokens {v : JsValue D} (h : v.All (JsPlain D))
    (hdistinct : v.All JsonValue.DistinctKeys) : (serverTree D v).All TokensPlain := by
  unfold serverTree
  rw [JsonValue.all_sorted _ tokensPlain_shallow, JsonValue.all_map]
  refine ((JsonValue.all_and _ _ _).mpr ⟨h, hdistinct⟩).imp fun u hu => ?_
  cases u with
  | number d =>
    have htext := D.text_integer d (D.value d).num hu.1.2 (safeInteger_num hu.1).symm
    change jsonNumberWithinResourceBounds (D.text d) = true
    rw [htext]
    exact lexeme_ofInt hu.1.2
  | array entries => rw [JsonValue.map_array]; trivial
  | object members =>
    have hkeys : (members.map (·.1)).Nodup := hu.2
    have hnodup := @List.Nodup.map_on _ _ _ goString ?_ hkeys
    · rw [JsonValue.map_object, TokensPlain, List.map_map]
      rw [List.map_map] at hnodup
      exact hnodup
    · intro a ha b hb heq
      obtain ⟨m, hm, rfl⟩ := List.mem_map.mp ha
      obtain ⟨m', hm', rfl⟩ := List.mem_map.mp hb
      exact goString_injOn (hu.1 m hm).2 (hu.1 m' hm').2 heq
  | _ => trivial

/-- **What the Bridge accepts** of the texts the server writes. -/
theorem bridgeAccepts_iff (v : JsJson D) :
    BridgeAccepts D v ↔
      Shared D v.value ∧ nodeCount v.value ≤ maxJSONTotalNodes ∧
        numberCount v.value ≤ maxJSONNumbers := by
  have hparse := JsonText.parse_write (serverTree_valid v.value)
  have hscan := escapes_write _ (serverTree_valid v.value) []
  have hstrings : (serverTree D v.value).All StringsPlain ↔ v.value.All StringsPlain := by
    unfold serverTree
    rw [JsonValue.all_sorted _ stringsPlain_shallow, stringsPlain_map]
  have hgo : (bridgeValue (serverTree D v.value)).All GoPlain ↔
      (bridgeValue (v.value.map D.text id)).All GoPlain := by
    have hshallow : JsonValue.Shallow fun u : Tree => GoPlain (u.map id goString) :=
      .ofEveryKey (fun k => goString k ∉ reservedKeys)
        (fun entries => by rw [JsonValue.map_array]; trivial)
        fun members => by rw [JsonValue.map_object, GoPlain, List.forall_mem_map]
    unfold bridgeValue serverTree
    rw [JsonValue.all_map, JsonValue.all_sorted _ hshallow, ← JsonValue.all_map]
  have hnodes : nodeCount (serverTree D v.value) = nodeCount v.value := by
    unfold serverTree
    rw [nodeCount_sorted, nodeCount_map]
  have hnumbers : numberCount (serverTree D v.value) = numberCount v.value := by
    unfold serverTree
    rw [numberCount_sorted, numberCount_map]
  have hheight : (serverTree D v.value).height = v.value.height := by
    unfold serverTree
    rw [JsonValue.height_sorted, JsonValue.height_map]
  have hcount : valueCount (serverTree D v.value) = valueCount v.value := by
    unfold serverTree
    rw [valueCount_sorted, valueCount_map]
  rw [List.append_nil, hstrings] at hscan
  unfold BridgeAccepts
  rw [canonicalValue_eq]
  simp only [canonicalExecutionText_some hparse]
  constructor
  · rintro ⟨out, haccepts, -⟩
    have hplain : v.value.All (JsPlain D) :=
      (jsPlain_iff v.value).mpr ⟨(hscan.mp haccepts.escapes).1, hgo.mp haccepts.plain⟩
    refine ⟨⟨hplain, ?_, ?_, ?_⟩, ?_, ?_⟩
    · exact hheight ▸ haccepts.height
    · exact hcount ▸ haccepts.count
    · rw [canonicalValue_eq]
      exact haccepts.bytes
    · exact hnodes ▸ haccepts.nodes
    · exact hnumbers ▸ haccepts.numbers
  · rintro ⟨⟨hplain, hh, hc, hbytes⟩, hn, hm⟩
    rw [canonicalValue_eq] at hbytes
    obtain ⟨hwell, hgoplain⟩ := (jsPlain_iff v.value).mp hplain
    have hwritten : bridgeTree (bridgeValue (serverTree D v.value)) = serverTree D v.value := by
      rw [bridgeTree_eq (hstrings.mpr hwell), treeMeaning_serverTree hplain, serverTree_eq hplain]
    refine ⟨_, ⟨hbytes, hscan.mpr ⟨hwell, rfl⟩, ?_, hnodes ▸ hn, hnumbers ▸ hm, hheight ▸ hh,
      hcount ▸ hc, hgo.mpr hgoplain, ?_⟩, rfl⟩
    · exact serverTree_tokens hplain v.distinct
    · rw [hwritten]
      exact hbytes

end Sides

/-! ## One encoding -/

/-- **The two canonical encoders agree**, and each is a fixed point of its own reader. -/
theorem canonical_encoders_agree (D : Doubles) (sha256 : List UInt8 → String) :
    (∀ (v : JsJson D) (source : List Char) (tree : Tree) (text out : List Char),
      JsonText.parse source = some tree → jsMeaning D v.value = treeMeaning tree →
      canonicalExecutionJSON D v.value = .ok text → canonicalExecutionText source = some out →
      utf8 out = utf8 text ∧
      ∃ digest, executionOperationDigest D sha256 v.value = .ok digest ∧
        executionDigest sha256 source = some digest) ∧
    (∀ (v : JsJson D) (text : List Char), canonicalExecutionJSON D v.value = .ok text →
      ∃ w, parseJSON D text = some w ∧ canonicalExecutionJSON D w.value = .ok text) ∧
    (∀ source out : List Char, canonicalExecutionText source = some out →
      canonicalExecutionText out = some out) := by
  refine ⟨?_, fun v text h => server_fixed_point h, fun source out h => bridge_fixed_point h⟩
  intro v source tree text out hparse hsame hserver hbridge
  have htext := same_text hparse hsame hserver hbridge
  refine ⟨by rw [htext], sha256 (utf8 text), ?_, ?_⟩
  · rw [executionOperationDigest, hserver]
    rfl
  · rw [executionDigest, hbridge, htext]
    rfl

/-- `{"b":[1],"a":"é\n"}`, as an object. -/
def sampleValue : JsJson integerDoubles where
  value := .object [
    (Utf16.encode ['b'], .array [.number (1 : Int)]),
    (Utf16.encode ['a'], .string (Utf16.encode ['é', '\n']))]
  distinct := by
    have hkeys : [Utf16.encode ['b'], Utf16.encode ['a']].Nodup := by decide
    exact ⟨hkeys, ⟨trivial, trivial, trivial⟩, trivial, trivial⟩

theorem sampleValue_shared : Shared integerDoubles sampleValue.value where
  plain := by
    have hkeys : ∀ k ∈ [Utf16.encode ['b'], Utf16.encode ['a']],
        reserved k = false ∧ isWellFormed k = true := by decide
    have hone : SafeInteger ((1 : Int) : ℚ) := by decide
    have htext : isWellFormed (Utf16.encode ['é', '\n']) = true := by decide
    refine ⟨?_, ⟨trivial, hone, trivial⟩, htext, trivial⟩
    intro m hm
    exact hkeys m.1 (List.mem_map_of_mem hm)
  height := by decide
  count := by decide
  bytes := by decide

theorem sampleValue_server : ServerAccepts integerDoubles sampleValue :=
  (serverAccepts_iff sampleValue).mpr ⟨sampleValue_shared, by decide⟩

theorem sampleValue_bridge : BridgeAccepts integerDoubles sampleValue :=
  (bridgeAccepts_iff sampleValue).mpr ⟨sampleValue_shared, by decide, by decide⟩

/-- The sample's own text, given to the Bridge, is encoded as the sample is. -/
theorem sample_encoders_agree :
    ∃ text out, canonicalExecutionJSON integerDoubles sampleValue.value = .ok text ∧
      canonicalExecutionText (canonicalValue integerDoubles sampleValue.value) = some out ∧
      utf8 out = utf8 text := by
  obtain ⟨text, hserver⟩ := sampleValue_server
  obtain ⟨out, hbridge⟩ := sampleValue_bridge
  have hparse := JsonText.parse_write (serverTree_valid sampleValue.value)
  rw [← canonicalValue_eq] at hparse
  exact ⟨text, out, hserver, hbridge,
    ((canonical_encoders_agree integerDoubles fun bytes => toString bytes.length).1 sampleValue _ _
      text out hparse (treeMeaning_serverTree sampleValue_shared.plain).symm hserver hbridge).1⟩

/-! ## Where acceptance differs -/

/-- **The two validators agree within the Bridge's reader's bounds** and the server's bound on
text; outside them each side refuses on its own. -/
theorem acceptance_agrees (D : Doubles) (v : JsJson D) :
    (nodeCount v.value ≤ maxJSONTotalNodes → numberCount v.value ≤ maxJSONNumbers →
      valueText D v.value ≤ maximumBytes → (ServerAccepts D v ↔ BridgeAccepts D v)) ∧
    (ServerAccepts D v → (BridgeAccepts D v ↔
      nodeCount v.value ≤ maxJSONTotalNodes ∧ numberCount v.value ≤ maxJSONNumbers)) ∧
    (BridgeAccepts D v → (ServerAccepts D v ↔ valueText D v.value ≤ maximumBytes)) := by
  rw [serverAccepts_iff, bridgeAccepts_iff]
  refine ⟨fun hn hm ht => ?_, fun hs => ?_, fun hb => ?_⟩
  · exact ⟨fun h => ⟨h.1, hn, hm⟩, fun h => ⟨h.1, ht⟩⟩
  · exact ⟨fun h => h.2, fun h => ⟨hs.1, h⟩⟩
  · exact ⟨fun h => h.2, fun h => ⟨hb.1, h⟩⟩

theorem sample_acceptance_agrees :
    ServerAccepts integerDoubles sampleValue ↔ BridgeAccepts integerDoubles sampleValue :=
  (acceptance_agrees integerDoubles sampleValue).1 (by decide) (by decide) (by decide)

/-! An array of as many nulls as the reader takes values: the array itself is one more. -/

/-- `[null,…,null]`. -/
def nulls (D : Doubles) (n : Nat) : JsJson D where
  value := .array (List.replicate n .null)
  distinct := by
    refine (JsonValue.all_array _ _).mpr ⟨trivial, fun e he => ?_⟩
    rw [List.eq_of_mem_replicate he]
    trivial

theorem unitsByteLength_le (units : List UInt16) : unitsByteLength units ≤ 3 * units.length := by
  induction units using unitsByteLength.induct with
  | case1 => exact Nat.le_refl 0
  | case2 u h | case3 u h h' | case4 u h h' =>
    simp only [unitsByteLength, List.length_singleton]
    split_ifs
    omega
  | case5 u v us hpair ih =>
    rw [unitsByteLength, if_pos hpair, List.length_cons, List.length_cons]
    omega
  | case6 u v us hpair ih =>
    rw [unitsByteLength, if_neg hpair, List.length_cons]
    split_ifs <;> omega

theorem indexKey_length {index : Nat} (h : index < 10 ^ 5) : (indexKey index).length ≤ 5 := by
  have hdigits := decimal_length h (by decide)
  have hunits : ∀ ds : List Nat, (∀ d ∈ ds, d < 10) →
      (Utf16.encode (ds.map Nat.digitChar)).length = ds.length := by
    intro ds hds
    induction ds with
    | nil => rfl
    | cons d ds ih =>
      rw [List.forall_mem_cons] at hds
      have hone : ∀ d < 10, (Utf16.units (Nat.digitChar d)).length = 1 := by decide
      rw [List.map_cons, Utf16.encode_cons, List.length_append, hone d hds.1, ih hds.2,
        List.length_cons]
      omega
  unfold indexKey
  rw [hunits _ (JsonText.decimal_lt index)]
  exact hdigits

theorem indexText_le {index n : Nat} (h : index + n ≤ 10 ^ 5) : indexText index n ≤ 15 * n := by
  induction n generalizing index with
  | zero => exact Nat.le_refl 0
  | succ n ih =>
    have hkey := indexKey_length (show index < 10 ^ 5 by omega)
    have hbytes := unitsByteLength_le (indexKey index)
    have hrest := @ih (index + 1) (by omega)
    rw [indexText]
    omega

theorem nulls_bytes (D : Doubles) (n : Nat) :
    byteLength (canonicalValue D (nulls D n).value) ≤ 5 * n + 2 := by
  have hentries : canonicalEntries D (List.replicate n .null) =
      List.replicate n "null".toList := by
    rw [canonicalEntries_eq, List.map_replicate]
    rfl
  have hjoin : ∀ k, byteLength ((List.replicate k "null".toList).flatMap (',' :: ·)) = 5 * k := by
    intro k
    induction k with
    | zero => rfl
    | succ k ih =>
      have hpart : byteLength (',' :: "null".toList) = 5 := by decide
      rw [List.replicate_succ, List.flatMap_cons, byteLength_append, ih, hpart]
      omega
  have hopen : byteLength ['['] = 1 := by decide
  have hclose : byteLength [']'] = 1 := by decide
  have hnull : byteLength "null".toList = 4 := by decide
  change byteLength (['['] ++ join (canonicalEntries D (List.replicate n .null)) ++ [']']) ≤ _
  rw [hentries, byteLength_append, byteLength_append, hopen, hclose]
  cases n with
  | zero => decide
  | succ k =>
    rw [List.replicate_succ, join_cons, byteLength_append, hjoin, hnull]
    omega

theorem nulls_sums (D : Doubles) (n : Nat) :
    valueCount (nulls D n).value = 1 + n + n ∧ nodeCount (nulls D n).value = 1 + n ∧
      valueText D (nulls D n).value = indexText 0 n := by
  have hcount : valueCount (.null : JsValue D) = 1 := rfl
  have hnodes : nodeCount (.null : JsValue D) = 1 := rfl
  have htext : valueText D .null = 0 := rfl
  refine ⟨?_, ?_, ?_⟩
  · change valueCount (.array (List.replicate n (.null : JsValue D))) = _
    rw [valueCount_array, List.map_replicate, List.length_replicate, hcount]
    simp
  · change nodeCount (.array (List.replicate n (.null : JsValue D))) = _
    rw [nodeCount_array, List.map_replicate, hnodes]
    simp
  · change valueText D (.array (List.replicate n .null)) = _
    rw [valueText_array, List.map_replicate, List.length_replicate, htext]
    simp

/-- An array of 8,192 nulls is accepted by the server and refused by the Bridge. -/
theorem not_same_values :
    ¬ ∀ (D : Doubles) (v : JsJson D), ServerAccepts D v ↔ BridgeAccepts D v := by
  intro h
  have hsums := nulls_sums integerDoubles 8192
  have hserver : ServerAccepts integerDoubles (nulls integerDoubles 8192) := by
    refine (serverAccepts_iff _).mpr ⟨⟨?_, ?_, ?_, ?_⟩, ?_⟩
    · refine (JsonValue.all_array _ _).mpr ⟨trivial, fun e he => ?_⟩
      rw [List.eq_of_mem_replicate he]
      trivial
    · refine (JsonValue.height_array _ 24).mpr fun e he => ?_
      rw [List.eq_of_mem_replicate he]
      decide
    · rw [hsums.1]
      decide
    · exact (nulls_bytes integerDoubles 8192).trans (by decide)
    · rw [hsums.2.2]
      exact (indexText_le (by decide)).trans (by decide)
  have hbridge := ((bridgeAccepts_iff _).mp ((h _ _).mp hserver)).2.1
  rw [hsums.2.1] at hbridge
  exact absurd hbridge (by decide)

end AgentRoom.Contracts
