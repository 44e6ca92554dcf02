import AgentRoom.Contracts.BridgeBounds

/-!
# The two encoders agree

A JavaScript value and a JSON text stand for the same value when their numbers and
strings do, up to the order of members. The tree each side writes is a function of that
value alone, so two sides that accept it write the same bytes; and the tree a side wrote
stands for the value it was written from, so writing it again changes nothing.
-/

namespace AgentRoom.Contracts

open JsonText (Numeral Tree)

/-! ## The value a text stands for -/

/-- A JSON value, its members in the order of their keys. -/
abbrev Meaning := JsonValue ℚ (List UInt16)

/-- What a text stands for. -/
def treeMeaning (tree : Tree) : Meaning := (tree.map Numeral.value id).sorted unitsLe

/-- What a JavaScript value stands for. -/
def jsMeaning (D : Doubles) (v : JsValue D) : Meaning := (v.map D.value id).sorted unitsLe

/-- The tree that writes a value of integers. -/
def meaningTree (m : Meaning) : Tree := m.map integerNumeral id

theorem integerNumeral_valid (q : ℚ) : (integerNumeral q).Valid := JsonText.ofInt_valid _

theorem integerNumeral_value {q : ℚ} (h : SafeInteger q) : (integerNumeral q).value = q := by
  unfold integerNumeral
  rw [JsonText.ofInt_value]
  exact Rat.coe_int_num_of_den_eq_one h.1

theorem safeInteger_num {q : ℚ} (h : SafeInteger q) : ((q.num : Int) : ℚ) = q :=
  Rat.coe_int_num_of_den_eq_one h.1

/-! ## Properties that do not see the order of members -/

variable {N : Type}

theorem stringsPlain_shallow : JsonValue.Shallow (@StringsPlain N) :=
  .ofEveryKey (fun k => isWellFormed k = true) (fun _ => trivial) fun _ => Iff.rfl

theorem jsPlain_shallow (D : Doubles) : JsonValue.Shallow (JsPlain D) :=
  .ofEveryKey (fun k => reserved k = false ∧ isWellFormed k = true) (fun _ => trivial)
    fun _ => Iff.rfl

theorem validNumeral_shallow : JsonValue.Shallow JsonText.ValidNumeral where
  array _ _ _ := rfl
  object _ _ _ := rfl

theorem tokensPlain_shallow : JsonValue.Shallow TokensPlain := by
  refine .ofKeys (fun ks => (ks.map goString).Nodup) (fun _ => trivial) (fun members => ?_)
    fun ks ks' h => (h.map goString).nodup_iff
  rw [List.map_map]
  exact Iff.rfl

variable {N' : Type}

theorem stringsPlain_map (f : N → N') (v : JsonValue N (List UInt16)) :
    (v.map f id).All StringsPlain ↔ v.All StringsPlain := by
  rw [JsonValue.all_map]
  have hsame : (fun u : JsonValue N (List UInt16) => StringsPlain (u.map f id)) = StringsPlain := by
    funext u
    cases u with
    | array entries => rw [JsonValue.map_array]; rfl
    | object members =>
      rw [JsonValue.map_object, StringsPlain, StringsPlain, List.forall_mem_map]
      rfl
    | _ => rfl
  rw [hsame]

/-- What an encoder made of runes is well formed. -/
theorem stringsPlain_encode (f : N → N') (g : JsonValue N (List Char)) :
    (g.map f Utf16.encode).All StringsPlain := by
  have hwell : ∀ text, isWellFormed (Utf16.encode text) = true := by
    intro text
    rw [isWellFormed, Utf16.decode_encode]
    rfl
  induction g using JsonValue.rule with
  | string text => exact hwell text
  | array entries ih =>
    rw [JsonValue.map_array, JsonValue.all_array, List.forall_mem_map]
    exact ⟨trivial, ih⟩
  | object members ih =>
    rw [JsonValue.map_object, JsonValue.all_object, List.forall_mem_map]
    refine ⟨?_, ih⟩
    rw [StringsPlain, List.forall_mem_map]
    exact fun m _ => hwell m.1
  | _ => trivial

theorem encode_goString {units : List UInt16} (h : isWellFormed units = true) :
    Utf16.encode (goString units) = units := by
  obtain ⟨text, htext⟩ := Option.isSome_iff_exists.mp h
  unfold goString
  rw [Utf16.decodeLossy_of_decode htext, Utf16.encode_of_decode htext]

/-! ## The trees written -/

variable {D : Doubles} {v : JsValue D}

/-- **The server's tree** writes the value's meaning. -/
theorem serverTree_eq (h : v.All (JsPlain D)) :
    serverTree D v = meaningTree (jsMeaning D v) := by
  unfold serverTree meaningTree jsMeaning
  rw [JsonValue.map_sorted _ id unitsLe unitsLe fun _ _ => Iff.rfl, JsonValue.map_map]
  congr 1
  refine JsonValue.map_congr (h.imp fun u hu => ?_)
  cases u with
  | number d => exact D.text_integer d (D.value d).num hu.2 (safeInteger_num hu).symm
  | string units => rfl
  | object members => exact fun _ _ => rfl
  | _ => trivial

variable {tree : Tree}

/-- **The Bridge's tree** writes the text's meaning. -/
theorem bridgeTree_eq (h : tree.All StringsPlain) :
    bridgeTree (bridgeValue tree) = meaningTree (treeMeaning tree) := by
  unfold bridgeTree bridgeValue meaningTree treeMeaning
  rw [JsonValue.map_sorted _ id unitsLe unitsLe fun _ _ => Iff.rfl, JsonValue.map_map,
    JsonValue.map_map]
  congr 1
  refine JsonValue.map_congr (h.imp fun u hu => ?_)
  cases u with
  | number numeral => rfl
  | string units => exact encode_goString hu
  | object members => exact fun m hm => encode_goString (hu m hm)
  | _ => trivial

/-- Both sides' strings are well formed when one side's are. -/
theorem stringsPlain_of_meaning (h : v.All (JsPlain D)) (hsame : jsMeaning D v = treeMeaning tree) :
    tree.All StringsPlain := by
  have hv : v.All StringsPlain := by
    refine h.imp fun u hu => ?_
    cases u with
    | string units => exact hu
    | object members => exact fun m hm => (hu m hm).2
    | _ => trivial
  have hjs : (jsMeaning D v).All StringsPlain := by
    unfold jsMeaning
    rw [JsonValue.all_sorted _ stringsPlain_shallow, stringsPlain_map]
    exact hv
  rw [hsame] at hjs
  unfold treeMeaning at hjs
  rwa [JsonValue.all_sorted _ stringsPlain_shallow, stringsPlain_map] at hjs

/-- **The two encoders agree**: what both sides accept they write alike. -/
theorem same_text {source text out : List Char} (hparse : JsonText.parse source = some tree)
    (hsame : jsMeaning D v = treeMeaning tree) (hserver : canonicalExecutionJSON D v = .ok text)
    (hbridge : canonicalExecutionText source = some out) : out = text := by
  obtain ⟨⟨hplain, -⟩, -, rfl⟩ := (canonicalExecutionJSON_ok D v text).mp hserver
  obtain ⟨-, rfl⟩ := (canonicalExecutionText_some hparse out).mp hbridge
  rw [serverTree_eq hplain, bridgeTree_eq (stringsPlain_of_meaning hplain hsame), hsame]

/-! ## Writing again -/

section Server

variable {D : Doubles}

theorem serverTree_valid (v : JsValue D) : JsonText.Valid (serverTree D v) := by
  unfold JsonText.Valid serverTree
  rw [JsonValue.all_sorted _ validNumeral_shallow, JsonValue.all_map]
  induction v using JsonValue.rule with
  | number d => exact D.text_valid d
  | array entries ih =>
    exact (JsonValue.all_array _ _).mpr ⟨by rw [JsonValue.map_array]; trivial, ih⟩
  | object members ih =>
    exact (JsonValue.all_object _ _).mpr ⟨by rw [JsonValue.map_object]; trivial, ih⟩
  | _ => trivial

theorem serverTree_distinct {v : JsValue D} (h : v.All JsonValue.DistinctKeys) :
    (serverTree D v).All JsonValue.DistinctKeys := by
  unfold serverTree
  rw [JsonValue.all_sorted _ JsonValue.shallow_distinctKeys,
    JsonValue.distinctKeys_map Function.injective_id]
  exact h

/-- A double, written and read back. -/
def reread (D : Doubles) (d : D.Double) : D.Double := D.ofRat (D.text d).value

theorem reread_value (d : D.Double) : D.value (reread D d) = D.value d := D.text_back d

/-- What a value is after it was written in order and read back. -/
def rereadValue (D : Doubles) (v : JsValue D) : JsValue D := (v.map (reread D) id).sorted unitsLe

theorem parseJSON_write (v : JsJson D) :
    ∃ w, parseJSON D (JsonText.write (serverTree D v.value)) = some w ∧
      w.value = rereadValue D v.value := by
  refine ⟨_, by rw [parseJSON, JsonText.parse_write (serverTree_valid _)]; rfl, ?_⟩
  have hdistinct := serverTree_distinct v.distinct
  have hmap : ((serverTree D v.value).map (fun n => D.ofRat n.value) id).All
      JsonValue.DistinctKeys :=
    (JsonValue.distinctKeys_map Function.injective_id _).mpr hdistinct
  change JsonValue.lastWins _ = _
  rw [JsonValue.lastWins_of_distinct hmap]
  unfold serverTree rereadValue
  rw [JsonValue.map_sorted _ id unitsLe unitsLe fun _ _ => Iff.rfl, JsonValue.map_map]
  rfl

theorem rereadValue_plain (v : JsValue D) :
    (rereadValue D v).All (JsPlain D) ↔ v.All (JsPlain D) := by
  unfold rereadValue
  rw [JsonValue.all_sorted _ (jsPlain_shallow D), JsonValue.all_map]
  have hsame : (fun u : JsValue D => JsPlain D (u.map (reread D) id)) = JsPlain D := by
    funext u
    cases u with
    | number d => rw [JsonValue.map, JsPlain, JsPlain, reread_value]
    | array entries => rw [JsonValue.map_array]; rfl
    | object members =>
      rw [JsonValue.map_object, JsPlain, JsPlain, List.forall_mem_map]
      rfl
    | _ => rfl
  rw [hsame]

theorem rereadValue_text (v : JsValue D) : valueText D (rereadValue D v) = valueText D v := by
  unfold valueText rereadValue
  rw [JsonValue.total_sorted _ (shallow_ownText D), JsonValue.total_map]
  congr 1
  funext u
  cases u with
  | array entries => rw [JsonValue.map_array, ownText, ownText, List.length_map]
  | object members =>
    rw [JsonValue.map_object, ownText, ownText, List.map_map]
    rfl
  | _ => rfl

theorem rereadValue_meaning (v : JsValue D) : jsMeaning D (rereadValue D v) = jsMeaning D v := by
  unfold jsMeaning rereadValue
  rw [JsonValue.map_sorted _ id unitsLe unitsLe fun _ _ => Iff.rfl, JsonValue.map_map,
    JsonValue.sorted_sorted]
  congr 2
  funext d
  exact reread_value d

/-- **The server's text is a fixed point** of parsing and writing. -/
theorem server_fixed_point {v : JsJson D} {text : List Char}
    (h : canonicalExecutionJSON D v.value = .ok text) :
    ∃ w, parseJSON D text = some w ∧ canonicalExecutionJSON D w.value = .ok text := by
  obtain ⟨⟨hplain, hheight, hcount, htext⟩, hbytes, rfl⟩ :=
    (canonicalExecutionJSON_ok D v.value text).mp h
  obtain ⟨w, hw, hvalue⟩ := parseJSON_write v
  have hplain' := (rereadValue_plain v.value).mpr hplain
  have hsame : serverTree D (rereadValue D v.value) = serverTree D v.value := by
    rw [serverTree_eq hplain', serverTree_eq hplain, rereadValue_meaning]
  refine ⟨w, hw, (canonicalExecutionJSON_ok D w.value _).mpr ?_⟩
  rw [hvalue, hsame]
  refine ⟨⟨hplain', ?_, ?_, ?_⟩, hbytes, rfl⟩
  · unfold rereadValue
    rw [JsonValue.height_sorted, JsonValue.height_map]
    exact hheight
  · unfold rereadValue
    rw [valueCount_sorted, valueCount_map]
    exact hcount
  · rw [rereadValue_text]
    exact htext

end Server

/-! ## Numerals and keys -/

theorem decimal_length {n k : Nat} (h : n < 10 ^ k) (hk : 0 < k) :
    (Numeral.decimal n).length ≤ k := by
  unfold Numeral.decimal
  split
  · exact hk
  · rw [List.length_reverse]
    exact (Nat.digits_length_le_iff (by decide) n).mpr h

/-- A safe integer's numeral is short and has no exponent. -/
theorem lexeme_ofInt {i : Int} (h : i.natAbs ≤ maxSafeInteger) :
    jsonNumberWithinResourceBounds (Numeral.ofInt i) = true := by
  have hdigits : (Numeral.decimal i.natAbs).length ≤ 16 := by
    refine decimal_length ?_ (by decide)
    unfold maxSafeInteger at h
    omega
  have hlength : (Numeral.ofInt i).text.length ≤ 17 := by
    unfold Numeral.text Numeral.ofInt Numeral.fractionText Numeral.exponentText
    dsimp only
    rw [List.length_append, List.length_append, List.length_map]
    split <;> simp <;> omega
  unfold jsonNumberWithinResourceBounds
  rw [Bool.and_eq_true, decide_eq_true_eq]
  refine ⟨?_, rfl⟩
  unfold maxJSONNumberLexemeLength
  omega

theorem goString_encode (text : List Char) : goString (Utf16.encode text) = text :=
  Utf16.decodeLossy_encode text

theorem goString_injOn {a b : List UInt16} (ha : isWellFormed a = true)
    (hb : isWellFormed b = true) (h : goString a = goString b) : a = b := by
  rw [← encode_goString ha, h, encode_goString hb]

/-! ## The Bridge's text -/

theorem bridgeTree_valid (g : GoValue) : JsonText.Valid (bridgeTree g) := by
  unfold JsonText.Valid bridgeTree
  rw [JsonValue.all_sorted _ validNumeral_shallow, JsonValue.all_map]
  induction g using JsonValue.rule with
  | number n => exact integerNumeral_valid n.value
  | array entries ih =>
    exact (JsonValue.all_array _ _).mpr ⟨by rw [JsonValue.map_array]; trivial, ih⟩
  | object members ih =>
    exact (JsonValue.all_object _ _).mpr ⟨by rw [JsonValue.map_object]; trivial, ih⟩
  | _ => trivial

variable {g : GoValue}

theorem bridgeTree_tokens (h : g.All GoPlain) (hdistinct : g.All JsonValue.DistinctKeys) :
    (bridgeTree g).All TokensPlain := by
  unfold bridgeTree
  rw [JsonValue.all_sorted _ tokensPlain_shallow, JsonValue.all_map]
  refine ((JsonValue.all_and _ _ _).mpr ⟨h, hdistinct⟩).imp fun u hu => ?_
  cases u with
  | number n => exact lexeme_ofInt hu.1.2
  | array entries => rw [JsonValue.map_array]; trivial
  | object members =>
    have hkeys : (members.map (·.1)).Nodup := hu.2
    rw [JsonValue.map_object, TokensPlain, List.map_map]
    refine List.Perm.nodup_iff (List.Perm.of_eq ?_) |>.mp hkeys
    exact List.map_congr_left fun m _ => (goString_encode m.1).symm
  | _ => trivial

variable {S : Type}

theorem numberCount_map {S' : Type} (f : N → N') (g : S → S') (v : JsonValue N S) :
    numberCount (v.map f g) = numberCount v := by
  unfold numberCount
  rw [JsonValue.total_map]
  congr 1
  funext u
  cases u with
  | array entries => rw [JsonValue.map_array]; rfl
  | object members => rw [JsonValue.map_object]; rfl
  | _ => rfl

theorem numberCount_sorted (le : S → S → Prop) [DecidableRel le] (v : JsonValue N S) :
    numberCount (v.sorted le) = numberCount v :=
  JsonValue.total_sorted le ⟨fun _ _ _ => rfl, fun _ _ _ => rfl⟩ v

theorem nodeCount_map {S' : Type} (f : N → N') (g : S → S') (v : JsonValue N S) :
    nodeCount (v.map f g) = nodeCount v := by
  unfold nodeCount
  rw [JsonValue.total_map]

theorem nodeCount_sorted (le : S → S → Prop) [DecidableRel le] (v : JsonValue N S) :
    nodeCount (v.sorted le) = nodeCount v :=
  JsonValue.total_sorted le ⟨fun _ _ _ => rfl, fun _ _ _ => rfl⟩ v

/-- What the Bridge writes is plain when what it read is. -/
theorem bridgeValue_bridgeTree_plain (h : g.All GoPlain) :
    (bridgeValue (bridgeTree g)).All GoPlain := by
  have hshallow : JsonValue.Shallow fun u : Tree => GoPlain (u.map id goString) :=
    .ofEveryKey (fun k => goString k ∉ reservedKeys)
      (fun entries => by rw [JsonValue.map_array]; trivial)
      fun members => by rw [JsonValue.map_object, GoPlain, List.forall_mem_map]
  unfold bridgeValue bridgeTree
  rw [JsonValue.all_map, JsonValue.all_sorted _ hshallow, JsonValue.all_map]
  refine h.imp fun u hu => ?_
  cases u with
  | number n =>
    change SafeInteger (integerNumeral n.value).value
    rw [integerNumeral_value hu]
    exact hu
  | array entries => rw [JsonValue.map_array, JsonValue.map_array]; trivial
  | object members =>
    rw [JsonValue.map_object, JsonValue.map_object, GoPlain, List.forall_mem_map,
      List.forall_mem_map]
    intro m hm
    change goString (Utf16.encode m.1) ∉ reservedKeys
    rw [goString_encode]
    exact hu m hm
  | _ => trivial

/-- Writing what was written gives the same tree. -/
theorem bridgeTree_again (h : g.All GoPlain) :
    bridgeTree (bridgeValue (bridgeTree g)) = bridgeTree g := by
  have hstrings : (bridgeTree g).All StringsPlain := by
    unfold bridgeTree
    rw [JsonValue.all_sorted _ stringsPlain_shallow]
    exact stringsPlain_encode _ g
  rw [bridgeTree_eq hstrings]
  unfold meaningTree treeMeaning bridgeTree
  rw [JsonValue.map_sorted _ id unitsLe unitsLe fun _ _ => Iff.rfl, JsonValue.map_map,
    JsonValue.map_sorted _ (id ∘ id) unitsLe unitsLe fun _ _ => Iff.rfl,
    JsonValue.sorted_sorted, JsonValue.map_map]
  congr 1
  refine JsonValue.map_congr (h.imp fun u hu => ?_)
  cases u with
  | number n => exact congrArg integerNumeral (integerNumeral_value hu)
  | string text => rfl
  | object members => exact fun _ _ => rfl
  | _ => trivial

/-- **The Bridge's text is a fixed point** of decoding and writing. -/
theorem bridge_fixed_point {source out : List Char} (h : canonicalExecutionText source = some out) :
    canonicalExecutionText out = some out := by
  rcases hparse : JsonText.parse source with _ | tree
  · simp [canonicalExecutionText, executionJSONValue, hparse] at h
  obtain ⟨haccepts, rfl⟩ := (canonicalExecutionText_some hparse out).mp h
  have hagain := JsonText.parse_write (bridgeTree_valid (bridgeValue tree))
  have hstrings : (bridgeTree (bridgeValue tree)).All StringsPlain := by
    unfold bridgeTree
    rw [JsonValue.all_sorted _ stringsPlain_shallow]
    exact stringsPlain_encode _ _
  have hscan := (escapes_write _ (bridgeTree_valid (bridgeValue tree)) []).mpr ⟨hstrings, rfl⟩
  rw [List.append_nil] at hscan
  refine (canonicalExecutionText_some hagain _).mpr ⟨?_, by rw [bridgeTree_again haccepts.plain]⟩
  constructor
  · exact haccepts.written
  · exact hscan
  · exact bridgeTree_tokens haccepts.plain (distinct_of_tokens haccepts.tokens)
  · unfold bridgeTree bridgeValue
    rw [nodeCount_sorted, nodeCount_map, nodeCount_map]
    exact haccepts.nodes
  · unfold bridgeTree bridgeValue
    rw [numberCount_sorted, numberCount_map, numberCount_map]
    exact haccepts.numbers
  · unfold bridgeTree bridgeValue
    rw [JsonValue.height_sorted, JsonValue.height_map, JsonValue.height_map]
    exact haccepts.height
  · unfold bridgeTree bridgeValue
    rw [valueCount_sorted, valueCount_map, valueCount_map]
    exact haccepts.count
  · exact bridgeValue_bridgeTree_plain haccepts.plain
  · rw [bridgeTree_again haccepts.plain]
    exact haccepts.written

end AgentRoom.Contracts
