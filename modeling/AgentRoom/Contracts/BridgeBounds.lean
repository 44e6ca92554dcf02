import AgentRoom.Contracts.ServerBounds

/-!
# What the Bridge accepts

The Bridge scans the text for bad escapes, reads it token by token against its resource
bounds, decodes it, counts the values, and encodes it once to see that it can. Each pass
is a bound on a sum over the tree or a property of every value within it.
-/

namespace AgentRoom.Contracts

open JsonText (Numeral Tree)

/-! ## Escapes -/

/-- The strings and keys have their surrogates paired. -/
def StringsPlain {N : Type} : JsonValue N (List UInt16) → Prop
  | .string units => isWellFormed units = true
  | .object members => ∀ m ∈ members, isWellFormed m.1 = true
  | _ => True

variable {c : Char}

theorem escapes_skip (h : c ≠ '"') (rest : List Char) :
    validUnicodeEscapes false (c :: rest) = validUnicodeEscapes false rest := by
  rw [validUnicodeEscapes, decide_eq_false h]

theorem escapes_outside {text : List Char} (h : ∀ c ∈ text, c ≠ '"') (rest : List Char) :
    validUnicodeEscapes false (text ++ rest) = validUnicodeEscapes false rest := by
  induction text with
  | nil => rfl
  | cons c text ih =>
    rw [List.forall_mem_cons] at h
    rw [List.cons_append, escapes_skip h.1]
    exact ih h.2

theorem readHex_hexEscape (u : UInt16) :
    JsonText.readHex (JsonText.hexChar (u.toNat / 4096)) (JsonText.hexChar (u.toNat / 256 % 16))
      (JsonText.hexChar (u.toNat / 16 % 16)) (JsonText.hexChar (u.toNat % 16)) = some u := by
  have hlt := u.toNat_lt
  unfold JsonText.readHex
  rw [JsonText.hexValue_hexChar (by omega), JsonText.hexValue_hexChar (by omega),
    JsonText.hexValue_hexChar (by omega), JsonText.hexValue_hexChar (by omega)]
  have hsum : ((u.toNat / 4096 * 16 + u.toNat / 256 % 16) * 16 + u.toNat / 16 % 16) * 16 +
      u.toNat % 16 = u.toNat := by omega
  simp only [Option.bind_eq_bind, Option.bind_some, hsum, UInt16.ofNat_toNat]
  rfl

example : JsonText.readHex '0' '0' 'e' '9' = some 0xe9 := by decide +kernel

variable {a b d : Char} {u : UInt16}

theorem escapes_unit (hhex : JsonText.readHex a b c d = some u) (hhigh : Utf16.isHigh u = false)
    (rest : List Char) :
    validUnicodeEscapes true ('\\' :: 'u' :: a :: b :: c :: d :: rest) =
      (!Utf16.isLow u && validUnicodeEscapes true rest) := by
  by_cases hnext : ∃ a' b' c' d' cs, rest = '\\' :: 'u' :: a' :: b' :: c' :: d' :: cs
  · obtain ⟨a', b', c', d', cs, rfl⟩ := hnext
    rw [validUnicodeEscapes, hhex]
    simp [hhigh]
  · rw [validUnicodeEscapes, hhex]
    · simp [hhigh]
    · intro a' b' c' d' cs heq
      exact hnext ⟨a', b', c', d', cs, heq⟩

variable {rest : List Char}

theorem escapes_high (hhex : JsonText.readHex a b c d = some u) (hhigh : Utf16.isHigh u = true)
    (hrest : ∀ a' b' c' d' cs, rest = '\\' :: 'u' :: a' :: b' :: c' :: d' :: cs →
      ∀ v, JsonText.readHex a' b' c' d' = some v → Utf16.isLow v = false) :
    validUnicodeEscapes true ('\\' :: 'u' :: a :: b :: c :: d :: rest) = false := by
  by_cases hnext : ∃ a' b' c' d' cs, rest = '\\' :: 'u' :: a' :: b' :: c' :: d' :: cs
  · obtain ⟨a', b', c', d', cs, rfl⟩ := hnext
    rw [validUnicodeEscapes, hhex]
    rcases hv : JsonText.readHex a' b' c' d' with _ | v
    · simp [hhigh]
    · simp [hhigh, hrest _ _ _ _ _ rfl v hv]
  · rw [validUnicodeEscapes, hhex]
    · simp [hhigh]
    · intro a' b' c' d' cs heq
      exact hnext ⟨a', b', c', d', cs, heq⟩

theorem escapes_plain (hquote : c ≠ '"') (hslash : c ≠ '\\') (hspace : ¬ c.toNat < 0x20)
    (rest : List Char) :
    validUnicodeEscapes true (c :: rest) = validUnicodeEscapes true rest := by
  rw [validUnicodeEscapes]
  · simp [hslash, hspace]
  all_goals simp [hquote, hslash]

theorem escapes_simple {e : Char} (he : (JsonText.simpleEscape e).isSome) (hu : e ≠ 'u')
    (rest : List Char) :
    validUnicodeEscapes true ('\\' :: e :: rest) = validUnicodeEscapes true rest := by
  rw [validUnicodeEscapes]
  · simp [he]
  all_goals simp [hu]

theorem escapes_escapeChar (c : Char) (rest : List Char) :
    validUnicodeEscapes true (JsonText.escapeChar c ++ rest) = validUnicodeEscapes true rest := by
  unfold JsonText.escapeChar
  split
  · exact escapes_simple rfl (by decide) rest
  next hquote =>
  split
  · exact escapes_simple rfl (by decide) rest
  next hslash =>
  split
  · exact escapes_simple rfl (by decide) rest
  split
  · exact escapes_simple rfl (by decide) rest
  split
  · exact escapes_simple rfl (by decide) rest
  split
  · exact escapes_simple rfl (by decide) rest
  split
  · exact escapes_simple rfl (by decide) rest
  split
  · next hcontrol =>
    have hunit := Utf16.toNat_unit (show c.toNat < 0x10000 by omega)
    have hhigh : Utf16.isHigh (UInt16.ofNat c.toNat) = false := by
      rw [Utf16.isHigh, hunit]
      simp
      omega
    have hlow : Utf16.isLow (UInt16.ofNat c.toNat) = false := by
      rw [Utf16.isLow, hunit]
      simp
      omega
    refine (escapes_unit (readHex_hexEscape _) hhigh rest).trans ?_
    rw [hlow]
    rfl
  · next hspace => exact escapes_plain hquote hslash hspace rest

variable {cs : List Char}

theorem hexEscape_head (h : JsonText.hexEscape u ++ rest = '\\' :: 'u' :: a :: b :: c :: d :: cs) :
    JsonText.readHex a b c d = some u := by
  unfold JsonText.hexEscape at h
  simp only [List.cons_append, List.nil_append, List.cons.injEq, true_and] at h
  obtain ⟨rfl, rfl, rfl, rfl, -⟩ := h
  exact readHex_hexEscape u

theorem escapeChar_head {ch : Char}
    (h : JsonText.escapeChar ch ++ rest = '\\' :: 'u' :: a :: b :: c :: d :: cs) :
    JsonText.readHex a b c d = some (UInt16.ofNat ch.toNat) := by
  unfold JsonText.escapeChar at h
  split at h
  · simp at h
  split at h
  · simp at h
  next hslash =>
  iterate 5
    split at h
    · simp at h
  split at h
  · exact hexEscape_head h
  · simp [hslash] at h

theorem escape_head {v : UInt16} {us : List UInt16}
    (h : JsonText.escape (v :: us) ++ rest = '\\' :: 'u' :: a :: b :: c :: d :: cs) :
    JsonText.readHex a b c d = some v := by
  by_cases hsurrogate : Utf16.isHigh v || Utf16.isLow v
  · cases us with
    | nil =>
      rw [JsonText.escape, if_pos hsurrogate] at h
      exact hexEscape_head h
    | cons w us =>
      rw [JsonText.escape] at h
      rw [if_pos hsurrogate] at h
      split at h
      · next hpair =>
        rw [Bool.and_eq_true] at hpair
        have hbig := JsonText.toNat_pair hpair.1 hpair.2
        have hc := (List.cons.inj h).1
        rw [hc] at hbig
        exact absurd hbig (by decide)
      · rw [List.append_assoc] at h
        exact hexEscape_head h
  · rw [Bool.or_eq_true, not_or, Bool.not_eq_true, Bool.not_eq_true] at hsurrogate
    have hnat : (Char.ofNat v.toNat).toNat = v.toNat := by
      have hlt := v.toNat_lt
      refine Utf16.toNat_ofNat ?_
      simp [Utf16.isHigh, Utf16.isLow] at hsurrogate
      omega
    rw [escape_plain hsurrogate.1 hsurrogate.2, List.append_assoc] at h
    have hread := escapeChar_head h
    rwa [hnat, UInt16.ofNat_toNat] at hread

/-- **A quoted string passes when its surrogates are paired.** -/
theorem escapes_escape (units : List UInt16) (rest : List Char) :
    validUnicodeEscapes true (JsonText.escape units ++ '"' :: rest) =
      (isWellFormed units && validUnicodeEscapes false rest) := by
  have hclose : ∀ a b c d : Char, ∀ cs, '"' :: rest ≠ '\\' :: 'u' :: a :: b :: c :: d :: cs := by
    intro a b c d cs h
    exact absurd (List.cons.inj h).1 (by decide)
  unfold isWellFormed
  induction units using JsonText.escape.induct with
  | case1 => rfl
  | case2 u hsurrogate =>
    rw [JsonText.escape, if_pos hsurrogate]
    rcases hhigh : Utf16.isHigh u with _ | _
    · have hlow : Utf16.isLow u = true := by simpa [hhigh] using hsurrogate
      refine (escapes_unit (readHex_hexEscape u) hhigh _).trans ?_
      simp [Utf16.decode, hhigh, hlow]
    · refine (escapes_high (readHex_hexEscape u) hhigh ?_).trans ?_
      · exact fun a b c d cs h => absurd h (hclose a b c d cs)
      · simp [Utf16.decode, hhigh]
  | case3 u hplain =>
    rw [JsonText.escape, if_neg hplain, escapes_escapeChar]
    rw [Bool.or_eq_true, not_or, Bool.not_eq_true, Bool.not_eq_true] at hplain
    rw [Utf16.decode_plain hplain.1 hplain.2]
    rfl
  | case4 u v us hpair ih =>
    rw [JsonText.escape, if_pos hpair]
    rw [Bool.and_eq_true] at hpair
    -- a pair is written as its character, which is above the escapes
    have hbig := JsonText.toNat_pair hpair.1 hpair.2
    have hne : ∀ c : Char, c.toNat < 0x10000 → Utf16.pair u v ≠ c := by
      intro c hc heq
      rw [heq] at hbig
      omega
    rw [List.cons_append, escapes_plain (hne _ (by decide)) (hne _ (by decide)) (by omega), ih,
      Utf16.decode_surrogates hpair.1 hpair.2, Option.isSome_map]
  | case5 u v us hpair hsurrogate ih =>
    rw [JsonText.escape, if_neg hpair, if_pos hsurrogate, List.append_assoc]
    rcases hhigh : Utf16.isHigh u with _ | _
    · have hlow : Utf16.isLow u = true := by simpa [hhigh] using hsurrogate
      refine (escapes_unit (readHex_hexEscape u) hhigh _).trans ?_
      simp [Utf16.decode.eq_def (u :: v :: us), hhigh, hlow]
    · -- a lone high surrogate: no low one is escaped after it
      have hlow : Utf16.isLow v = false := by simpa [hhigh] using hpair
      refine (escapes_high (readHex_hexEscape u) hhigh ?_).trans ?_
      · intro a b c d cs h w hw
        rw [escape_head h] at hw
        cases hw
        exact hlow
      · simp [Utf16.decode.eq_def (u :: v :: us), hhigh, hlow]
  | case6 u v us hpair hplain ih =>
    rw [JsonText.escape, if_neg hpair, if_neg hplain, List.append_assoc, escapes_escapeChar, ih]
    rw [Bool.or_eq_true, not_or, Bool.not_eq_true, Bool.not_eq_true] at hplain
    rw [Utf16.decode_plain hplain.1 hplain.2, Option.isSome_map]

theorem escapes_quote (units : List UInt16) (rest : List Char) :
    validUnicodeEscapes false (JsonText.quote units ++ rest) =
      (isWellFormed units && validUnicodeEscapes false rest) := by
  unfold JsonText.quote
  rw [List.append_assoc, List.cons_append, validUnicodeEscapes]
  exact escapes_escape units rest

theorem numeral_unquoted {n : Numeral} (hn : n.Valid) : ∀ c ∈ n.text, c ≠ '"' := by
  have hdigit : ∀ d < 10, Nat.digitChar d ≠ '"' := by decide
  intro c hc
  unfold Numeral.text at hc
  rw [List.mem_append, List.mem_append, List.mem_append] at hc
  rcases hc with hc | hc | hc | hc
  · split at hc
    · rw [List.mem_singleton] at hc
      rw [hc]
      decide
    · cases hc
  · obtain ⟨d, hd, rfl⟩ := List.mem_map.mp hc
    exact hdigit d (hn.digits d (List.mem_append_left _ hd))
  · cases hf : n.fraction with
    | nil => rw [hf] at hc; cases hc
    | cons f fs =>
      rw [hf, Numeral.fractionText, List.mem_cons] at hc
      rcases hc with rfl | hc
      · decide
      · obtain ⟨d, hd, rfl⟩ := List.mem_map.mp hc
        exact hdigit d (hn.digits d (List.mem_append_right _ (hf ▸ hd)))
  · cases he : n.exponent with
    | none => rw [he] at hc; cases hc
    | some e =>
      rw [he, Numeral.exponentText, JsonText.Exponent.text, List.mem_cons, List.mem_append] at hc
      rcases hc with rfl | hc | hc
      · decide
      · have hsign : ∀ sign, ∀ c ∈ JsonText.Exponent.signText sign, c ≠ '"' := by
          rintro (_ | _ | _) <;> simp [JsonText.Exponent.signText]
        exact hsign _ c hc
      · obtain ⟨d, hd, rfl⟩ := List.mem_map.mp hc
        exact hdigit d ((hn.exponent e he).2 d hd)

/-- What the scan makes of a written tree. -/
def Scans (t : Tree) : Prop :=
  ∀ rest, validUnicodeEscapes false (JsonText.write t ++ rest) = true ↔
    t.All StringsPlain ∧ validUnicodeEscapes false rest = true

theorem escapes_entries {entries : List Tree} (h : ∀ e ∈ entries, Scans e) (rest : List Char) :
    validUnicodeEscapes false (JsonText.writeEntries entries ++ rest) = true ↔
      (∀ e ∈ entries, e.All StringsPlain) ∧ validUnicodeEscapes false rest = true := by
  induction entries with
  | nil =>
    rw [JsonText.writeEntries, escapes_outside (by simp)]
    simp
  | cons e entries ih =>
    rw [List.forall_mem_cons] at h
    rw [JsonText.writeEntries, List.cons_append, List.cons_append, List.append_assoc,
      escapes_skip (by decide), h.1, ih h.2, List.forall_mem_cons,
      and_assoc]

theorem escapes_member (key : List UInt16) {v : Tree} (h : Scans v) (rest : List Char) :
    validUnicodeEscapes false (JsonText.quote key ++ ':' :: (JsonText.write v ++ rest)) = true ↔
      (isWellFormed key = true ∧ v.All StringsPlain) ∧ validUnicodeEscapes false rest = true := by
  rw [escapes_quote, Bool.and_eq_true, escapes_skip (by decide), h, and_assoc]

theorem escapes_members {members : List (List UInt16 × Tree)} (h : ∀ m ∈ members, Scans m.2)
    (rest : List Char) :
    validUnicodeEscapes false (JsonText.writeMembers members ++ rest) = true ↔
      (∀ m ∈ members, isWellFormed m.1 = true ∧ m.2.All StringsPlain) ∧
        validUnicodeEscapes false rest = true := by
  induction members with
  | nil =>
    rw [JsonText.writeMembers, escapes_outside (by simp)]
    simp
  | cons m members ih =>
    obtain ⟨key, v⟩ := m
    rw [List.forall_mem_cons] at h
    have hmember := escapes_member key h.1 (JsonText.writeMembers members ++ rest)
    rw [ih h.2] at hmember
    rw [JsonText.writeMembers, List.forall_mem_cons, and_assoc, ← hmember]
    simp only [List.append_assoc, List.cons_append]
    rw [escapes_skip (by decide)]

/-- **Which written texts pass the scan.** -/
theorem escapes_write (t : Tree) (ht : JsonText.Valid t) : Scans t := by
  induction t using JsonValue.rule with
  | null =>
    intro rest
    rw [JsonText.write, escapes_outside (by simp)]
    simp [JsonValue.All, StringsPlain]
  | bool b =>
    intro rest
    cases b <;> rw [JsonText.write, escapes_outside (by simp)] <;>
      simp [JsonValue.All, StringsPlain]
  -- a numeral has no quote; a text is scanned to its end
  | number n =>
    intro rest
    rw [JsonText.write, escapes_outside (numeral_unquoted ht)]
    simp [JsonValue.All, StringsPlain]
  | string units =>
    intro rest
    rw [JsonText.write, escapes_quote, Bool.and_eq_true]
    exact Iff.rfl
  | array entries ih =>
    intro rest
    have hvalid := ((JsonValue.all_array _ _).mp ht).2
    have hentries : ∀ e ∈ entries, Scans e := fun e he => ih e he (hvalid e he)
    rw [JsonValue.all_array]
    cases entries with
    | nil =>
      rw [JsonText.write, escapes_outside (by simp)]
      simp [StringsPlain]
    | cons e entries =>
      rw [List.forall_mem_cons] at hentries
      rw [JsonText.write, List.cons_append, List.cons_append, List.append_assoc,
        escapes_skip (by decide), hentries.1,
        escapes_entries hentries.2, List.forall_mem_cons, ← and_assoc]
      simp [StringsPlain]
  | object members ih =>
    intro rest
    have hvalid := ((JsonValue.all_object _ _).mp ht).2
    have hmembers : ∀ m ∈ members, Scans m.2 := fun m hm => ih m hm (hvalid m hm)
    rw [JsonValue.all_object]
    cases members with
    | nil =>
      rw [JsonText.write, escapes_outside (by simp)]
      simp [StringsPlain]
    | cons m members =>
      obtain ⟨key, v⟩ := m
      rw [List.forall_mem_cons] at hmembers
      have hmember := escapes_member key hmembers.1 (JsonText.writeMembers members ++ rest)
      rw [escapes_members hmembers.2] at hmember
      rw [JsonText.write]
      simp only [List.append_assoc, List.cons_append]
      rw [escapes_skip (by decide), hmember]
      simp only [StringsPlain, List.forall_mem_cons, forall_and]
      tauto

/-! ## The token reader -/

section Tokens

variable {N S : Type}

/-- `totalNodes`: a key is none. -/
def nodeCount (v : JsonValue N S) : Nat := v.total fun _ => 1

def ownNumber : JsonValue N S → Nat
  | .number _ => 1
  | _ => 0

def numberCount (v : JsonValue N S) : Nat := v.total ownNumber

theorem nodeCount_array (entries : List (JsonValue N S)) :
    nodeCount (.array entries) = 1 + (entries.map nodeCount).sum :=
  JsonValue.total_array _ entries

theorem nodeCount_object (members : List (S × JsonValue N S)) :
    nodeCount (.object members) = 1 + (members.map fun m => nodeCount m.2).sum :=
  JsonValue.total_object _ members

theorem numberCount_array (entries : List (JsonValue N S)) :
    numberCount (.array entries) = (entries.map numberCount).sum :=
  (JsonValue.total_array _ entries).trans (Nat.zero_add _)

theorem numberCount_object (members : List (S × JsonValue N S)) :
    numberCount (.object members) = (members.map fun m => numberCount m.2).sum :=
  (JsonValue.total_object _ members).trans (Nat.zero_add _)

end Tokens

/-- What the reader asks of a value, its bounds and the values within aside. -/
def TokensPlain : Tree → Prop
  | .number numeral => jsonNumberWithinResourceBounds numeral = true
  | .object members => (members.map fun m => goString m.1).Nodup
  | _ => True

/-- A state in which the next token is a value's. -/
structure Ready (s : BoundsState) : Prop where
  value : ∀ parent rest, s.containers = parent :: rest → ¬ (parent.object ∧ parent.expectingKey)
  nodes : s.totalNodes ≤ maxJSONTotalNodes
  numbers : s.numberCount ≤ maxJSONNumbers

def BoundsState.after (s : BoundsState) (t : Tree) : BoundsState :=
  { placed s with
    totalNodes := s.totalNodes + nodeCount t
    numberCount := s.numberCount + Contracts.numberCount t }

theorem placed_totalNodes (s : BoundsState) : (placed s).totalNodes = s.totalNodes := by
  unfold placed
  split
  · rfl
  · split <;> rfl

theorem placed_numberCount (s : BoundsState) : (placed s).numberCount = s.numberCount := by
  unfold placed
  split
  · rfl
  · split <;> rfl

theorem placed_length (s : BoundsState) :
    (placed s).containers.length = s.containers.length := by
  unfold placed
  split
  · rfl
  · next h => split <;> simp [h]

theorem boundsStep_value {s : BoundsState} (hs : Ready s) {token : Token}
    (htoken : token ≠ .closeObject ∧ token ≠ .closeArray) :
    boundsStep s token = countToken s token := by
  unfold boundsStep
  split
  · exact absurd rfl htoken.1
  · exact absurd rfl htoken.2
  · split
    · next parent rest h => rw [if_neg (hs.value parent rest h)]
    · rfl

/-- What the reader does with the tokens of a tree. -/
def ReadsTokens (t : Tree) : Prop :=
  ∀ s s', Ready s → ((tokens t).foldlM boundsStep s = some s' ↔
    t.All TokensPlain ∧ s.totalNodes + nodeCount t ≤ maxJSONTotalNodes ∧
    s.numberCount + numberCount t ≤ maxJSONNumbers ∧
    s.containers.length + 1 + t.height ≤ maxJSONDepth ∧ s' = s.after t)

/-- The tokens of an array's entries, up to its bracket. -/
theorem tokensEntries_fold {entries : List Tree} (ih : ∀ e ∈ entries, ReadsTokens e)
    {rest : List JsonContainerState} {s s' : BoundsState} (hs : Ready s)
    (htop : s.containers = ⟨false, false, []⟩ :: rest) :
    (tokensEntries entries).foldlM boundsStep s = some s' ↔
      (∀ e ∈ entries, e.All TokensPlain ∧ rest.length + 2 + e.height ≤ maxJSONDepth) ∧
      s.totalNodes + (entries.map nodeCount).sum ≤ maxJSONTotalNodes ∧
      s.numberCount + (entries.map numberCount).sum ≤ maxJSONNumbers ∧
      s' = { s with
        containers := rest
        totalNodes := s.totalNodes + (entries.map nodeCount).sum
        numberCount := s.numberCount + (entries.map numberCount).sum } := by
  have hplaced : placed s = s := by
    unfold placed
    rw [htop]
    rfl
  induction entries generalizing s with
  | nil =>
    have hclose : boundsStep s .closeArray = some { s with containers := rest } := by
      simp [boundsStep, closeContainer, htop]
    rw [tokensEntries, List.foldlM_cons, hclose]
    simp [hs.nodes, hs.numbers, eq_comm]
  | cons e entries ihs =>
    rw [List.forall_mem_cons] at ih
    rw [tokensEntries, List.foldlM_append, Option.bind_eq_bind, Option.bind_eq_some_iff]
    simp only [ih.1 s _ hs, List.forall_mem_cons, List.map_cons, List.sum_cons]
    have hafter : s.after e = { s with
        totalNodes := s.totalNodes + nodeCount e
        numberCount := s.numberCount + numberCount e } := by
      unfold BoundsState.after
      rw [hplaced]
    have hlen : s.containers.length = rest.length + 1 := by rw [htop, List.length_cons]
    have hplaced' : placed (s.after e) = s.after e := by
      rw [hafter]
      unfold placed
      dsimp only
      rw [htop]
      rfl
    constructor
    · rintro ⟨_, ⟨hplain, hnodes, hnumbers, hdepth, rfl⟩, hrest⟩
      have hready : Ready (s.after e) := by
        rw [hafter]
        exact ⟨hs.value, hnodes, hnumbers⟩
      have htail := ihs ih.2 hready (by rw [hafter]; exact htop) hplaced'
      obtain ⟨hall, hn, hm, rfl⟩ := htail.mp hrest
      rw [hafter] at hn hm ⊢
      dsimp only at hn hm ⊢
      refine ⟨⟨⟨hplain, by omega⟩, hall⟩, by omega, by omega, ?_⟩
      rw [Nat.add_assoc, Nat.add_assoc]
    · rintro ⟨⟨⟨hplain, hdepth⟩, hall⟩, hn, hm, rfl⟩
      have hready : Ready (s.after e) := by
        rw [hafter]
        exact ⟨hs.value, by dsimp only; omega, by dsimp only; omega⟩
      have htail := ihs ih.2 hready (by rw [hafter]; exact htop) hplaced'
      refine ⟨_, ⟨hplain, by omega, by omega, by omega, rfl⟩, htail.mpr ⟨hall, ?_, ?_, ?_⟩⟩
      · rw [hafter]
        dsimp only
        omega
      · rw [hafter]
        dsimp only
        omega
      · rw [hafter]
        dsimp only
        rw [Nat.add_assoc, Nat.add_assoc]

/-- The tokens of an object's members, up to its brace. -/
theorem tokensMembers_fold {members : List (List UInt16 × JsonValue Numeral (List UInt16))}
    (ih : ∀ m ∈ members, ReadsTokens m.2) {keys : List (List Char)}
    {rest : List JsonContainerState} {s s' : BoundsState}
    (hnodes : s.totalNodes ≤ maxJSONTotalNodes)
    (hnumbers : s.numberCount ≤ maxJSONNumbers)
    (htop : s.containers = ⟨true, true, keys⟩ :: rest) :
    (tokensMembers members).foldlM boundsStep s = some s' ↔
      ((members.map fun m => goString m.1).Nodup ∧ ∀ m ∈ members, goString m.1 ∉ keys) ∧
      (∀ m ∈ members, m.2.All TokensPlain ∧ rest.length + 2 + m.2.height ≤ maxJSONDepth) ∧
      s.totalNodes + (members.map fun m => nodeCount m.2).sum ≤ maxJSONTotalNodes ∧
      s.numberCount + (members.map fun m => numberCount m.2).sum ≤ maxJSONNumbers ∧
      s' = { s with
        containers := rest
        totalNodes := s.totalNodes + (members.map fun m => nodeCount m.2).sum
        numberCount := s.numberCount + (members.map fun m => numberCount m.2).sum } := by
  induction members generalizing s keys with
  | nil =>
    have hclose : boundsStep s .closeObject = some { s with containers := rest } := by
      simp [boundsStep, closeContainer, htop]
    rw [tokensMembers, List.foldlM_cons, hclose]
    simp [hnodes, hnumbers, eq_comm]
  | cons m members ihs =>
    obtain ⟨key, v⟩ := m
    rw [List.forall_mem_cons] at ih
    -- the key is put down; the member's value comes next
    let s₁ : BoundsState := { s with containers := ⟨true, false, goString key :: keys⟩ :: rest }
    have hkey : boundsStep s (.string (goString key)) =
        if goString key ∈ keys then none else some s₁ := by
      simp [boundsStep, htop, s₁]
    have hready : Ready s₁ := ⟨by simp [s₁], hnodes, hnumbers⟩
    have hafter : s₁.after v = { s with
        containers := ⟨true, true, goString key :: keys⟩ :: rest
        totalNodes := s.totalNodes + nodeCount v
        numberCount := s.numberCount + numberCount v } := rfl
    have hlen : s₁.containers.length = rest.length + 1 := rfl
    have hvalue := fun s'' => ih.1 s₁ s'' hready
    rw [tokensMembers, List.cons_append, List.foldlM_cons, hkey]
    simp only [List.forall_mem_cons, List.map_cons, List.sum_cons, List.nodup_cons]
    by_cases hfresh : goString key ∈ keys
    · rw [if_pos hfresh]
      exact ⟨nofun, fun h => absurd hfresh h.1.2.1⟩
    rw [if_neg hfresh, Option.bind_eq_bind, Option.bind_some, List.foldlM_append,
      Option.bind_eq_bind, Option.bind_eq_some_iff]
    simp only [hvalue]
    constructor
    · rintro ⟨_, ⟨hplain, hn, hm, hdepth, rfl⟩, hrest⟩
      have htail := @ihs ih.2 (goString key :: keys) (s₁.after v) hn hm rfl
      obtain ⟨⟨hnodup, hnew⟩, hall, hns, hms, rfl⟩ := htail.mp hrest
      rw [hafter] at hns hms ⊢
      dsimp only [s₁] at hn hm hns hms ⊢
      refine ⟨⟨⟨?_, hnodup⟩, hfresh, fun m hm hk => hnew m hm (List.mem_cons_of_mem _ hk)⟩,
        ⟨⟨hplain, by omega⟩, hall⟩, by omega, by omega, ?_⟩
      · intro hmem
        obtain ⟨m, hm, heq⟩ := List.mem_map.mp hmem
        exact hnew m hm (by rw [heq]; exact List.mem_cons_self)
      · rw [Nat.add_assoc, Nat.add_assoc]
    · rintro ⟨⟨⟨hout, hnodup⟩, -, hnew⟩, ⟨⟨hplain, hdepth⟩, hall⟩, hn, hm, rfl⟩
      have hn₁ : s₁.totalNodes + nodeCount v ≤ maxJSONTotalNodes := by
        dsimp only [s₁]
        omega
      have hm₁ : s₁.numberCount + numberCount v ≤ maxJSONNumbers := by
        dsimp only [s₁]
        omega
      have htail := @ihs ih.2 (goString key :: keys) (s₁.after v) hn₁ hm₁ rfl
      refine ⟨_, ⟨hplain, hn₁, hm₁, by omega, rfl⟩, htail.mpr ⟨⟨hnodup, ?_⟩, hall, ?_, ?_, ?_⟩⟩
      · intro m hm hk
        rcases List.mem_cons.mp hk with heq | hk
        · exact hout (List.mem_map.mpr ⟨m, hm, heq⟩)
        · exact hnew m hm hk
      · rw [hafter]
        dsimp only
        omega
      · rw [hafter]
        dsimp only
        omega
      · rw [hafter]
        dsimp only
        rw [Nat.add_assoc, Nat.add_assoc]

theorem countToken_scalar {s : BoundsState} {token : Token} (h : token = .literal ∨
    ∃ text, token = .string text) (s' : BoundsState) :
    countToken s token = some s' ↔
      s.totalNodes + 1 ≤ maxJSONTotalNodes ∧ s.containers.length + 1 ≤ maxJSONDepth ∧
      s' = { placed s with totalNodes := s.totalNodes + 1 } := by
  unfold countToken
  simp only [placed_length, placed_totalNodes]
  split
  · next hout => exact ⟨nofun, fun h => by omega⟩
  · next hin =>
    rcases h with rfl | ⟨text, rfl⟩ <;> simp only [Option.some.injEq] <;> rw [eq_comm] <;>
      exact ⟨fun h => ⟨by omega, by omega, h⟩, fun h => h.2.2⟩

theorem foldlM_one (token : Token) (s : BoundsState) :
    [token].foldlM boundsStep s = boundsStep s token := by
  rw [List.foldlM_cons]
  exact bind_pure _

/-- The counts of a token that opens a container or writes a number. -/
theorem countToken_number (s s' : BoundsState) (numeral : Numeral) :
    countToken s (.number numeral) = some s' ↔
      s.totalNodes + 1 ≤ maxJSONTotalNodes ∧ s.containers.length + 1 ≤ maxJSONDepth ∧
      s.numberCount + 1 ≤ maxJSONNumbers ∧ jsonNumberWithinResourceBounds numeral = true ∧
      s' = { placed s with totalNodes := s.totalNodes + 1, numberCount := s.numberCount + 1 } := by
  unfold countToken
  simp only [placed_length, placed_totalNodes, placed_numberCount]
  split
  · next hout => exact ⟨nofun, fun h => by omega⟩
  · next hin =>
    split
    · next hbad =>
      refine ⟨nofun, fun h => ?_⟩
      rcases hbad with hbad | hbad
      · omega
      · rw [h.2.2.2.1] at hbad
        cases hbad
    · next hgood =>
      rw [not_or, Bool.not_eq_false] at hgood
      rw [Option.some.injEq, eq_comm]
      exact ⟨fun h => ⟨by omega, by omega, by omega, hgood.2, h⟩, fun h => h.2.2.2.2⟩

theorem countToken_open (object : Bool) (s s' : BoundsState) :
    countToken s (if object then .openObject else .openArray) = some s' ↔
      s.totalNodes + 1 ≤ maxJSONTotalNodes ∧ s.containers.length + 1 ≤ maxJSONDepth ∧
      s' = { placed s with
        totalNodes := s.totalNodes + 1
        containers := ⟨object, object, []⟩ :: (placed s).containers } := by
  unfold countToken
  simp only [placed_length, placed_totalNodes]
  split
  · next hout => exact ⟨nofun, fun h => by omega⟩
  · next hin =>
    cases object <;> simp only [Bool.false_eq_true, if_true, if_false, Option.some.injEq] <;>
      rw [eq_comm] <;> exact ⟨fun h => ⟨by omega, by omega, h⟩, fun h => h.2.2⟩

theorem ReadsTokens.scalar {t : Tree} {token : Token} (htokens : tokens t = [token])
    (hplain : t.All TokensPlain) (hnodes : nodeCount t = 1) (hnumbers : numberCount t = 0)
    (hheight : t.height = 0) (h : token = .literal ∨ ∃ text, token = .string text) :
    ReadsTokens t := by
  intro s s' hs
  have htoken : token ≠ .closeObject ∧ token ≠ .closeArray := by
    rcases h with rfl | ⟨text, rfl⟩ <;> exact ⟨nofun, nofun⟩
  have hnum := hs.numbers
  have hafter : s.after t = { placed s with totalNodes := s.totalNodes + 1 } := by
    have hsame : ∀ n, n = (placed s).numberCount →
        { placed s with totalNodes := s.totalNodes + 1, numberCount := n } =
          { placed s with totalNodes := s.totalNodes + 1 } := by
      rintro n rfl
      rfl
    unfold BoundsState.after
    rw [hnodes, hnumbers]
    exact hsame _ (placed_numberCount s).symm
  rw [htokens, foldlM_one, boundsStep_value hs htoken, hnodes, hnumbers, hheight, hafter,
    countToken_scalar h]
  exact ⟨fun h => ⟨hplain, h.1, by omega, by omega, h.2.2⟩,
    fun h => ⟨h.2.1, by omega, h.2.2.2.2⟩⟩

/-- **What the token reader accepts.** -/
theorem readsTokens (t : Tree) : ReadsTokens t := by
  induction t using JsonValue.rule with
  | null => exact .scalar rfl trivial rfl rfl rfl (.inl rfl)
  | bool b => exact .scalar rfl trivial rfl rfl rfl (.inl rfl)
  | string units => exact .scalar rfl trivial rfl rfl rfl (.inr ⟨_, rfl⟩)
  | number numeral =>
    intro s s' hs
    have hstep := @boundsStep_value s hs (.number numeral) ⟨nofun, nofun⟩
    have hafter : s.after (.number numeral) = { placed s with
        totalNodes := s.totalNodes + 1, numberCount := s.numberCount + 1 } := rfl
    rw [tokens, foldlM_one, hstep, countToken_number, hafter]
    constructor
    · rintro ⟨hn, hdepth, hm, hlexeme, rfl⟩
      exact ⟨hlexeme, hn, hm, hdepth, rfl⟩
    · rintro ⟨hlexeme, hn, hm, hdepth, rfl⟩
      exact ⟨hn, hdepth, hm, hlexeme, rfl⟩
  | array entries ih =>
    intro s s' hs
    have hheight := JsonValue.height_array entries
    have hstep := @boundsStep_value s hs .openArray ⟨nofun, nofun⟩
    have hopen := fun s' => countToken_open false s s'
    rw [if_neg Bool.false_ne_true] at hopen
    rw [tokens, List.foldlM_cons, Option.bind_eq_bind, Option.bind_eq_some_iff,
      JsonValue.all_array, nodeCount_array, numberCount_array]
    simp only [hstep, hopen]
    -- the entries are read one level deeper
    have hfold := fun (hn : s.totalNodes + 1 ≤ maxJSONTotalNodes) =>
      @tokensEntries_fold entries ih (placed s).containers
        { placed s with
          totalNodes := s.totalNodes + 1
          containers := ⟨false, false, []⟩ :: (placed s).containers } s'
        ⟨by simp, hn, by simpa [placed_numberCount] using hs.numbers⟩ rfl
    have hlen := placed_length s
    have hcount := placed_numberCount s
    dsimp only at hfold
    have hafter : s.after (.array entries) = { placed s with
        totalNodes := s.totalNodes + 1 + (entries.map nodeCount).sum
        numberCount := (placed s).numberCount + (entries.map numberCount).sum } := by
      unfold BoundsState.after
      rw [nodeCount_array, numberCount_array, hcount, Nat.add_assoc]
    rw [hafter]
    constructor
    · rintro ⟨_, ⟨hn, hdepth, rfl⟩, hrest⟩
      obtain ⟨hall, hns, hms, rfl⟩ := (hfold hn).mp hrest
      refine ⟨⟨trivial, fun e he => (hall e he).1⟩, by omega, by omega, ?_, rfl⟩
      have := (hheight (maxJSONDepth - (s.containers.length + 1))).mpr fun e he => by
        have := (hall e he).2
        omega
      omega
    · rintro ⟨⟨-, hall⟩, hn, hm, hdepth, rfl⟩
      refine ⟨_, ⟨by omega, by omega, rfl⟩, (hfold (by omega)).mpr
        ⟨fun e he => ⟨hall e he, ?_⟩, by omega, by omega, rfl⟩⟩
      have := (hheight (maxJSONDepth - (s.containers.length + 1))).mp (by omega) e he
      omega
  | object members ih =>
    intro s s' hs
    have hheight := JsonValue.height_object members
    have hstep := @boundsStep_value s hs .openObject ⟨nofun, nofun⟩
    have hopen := fun s' => countToken_open true s s'
    rw [if_pos rfl] at hopen
    rw [tokens, List.foldlM_cons, Option.bind_eq_bind, Option.bind_eq_some_iff,
      JsonValue.all_object, nodeCount_object, numberCount_object]
    simp only [hstep, hopen]
    -- the members too, with no key seen yet
    have hfold := fun (hn : s.totalNodes + 1 ≤ maxJSONTotalNodes) =>
      @tokensMembers_fold members ih [] (placed s).containers
        { placed s with
          totalNodes := s.totalNodes + 1
          containers := ⟨true, true, []⟩ :: (placed s).containers } s'
        hn (by simpa [placed_numberCount] using hs.numbers) rfl
    have hlen := placed_length s
    have hcount := placed_numberCount s
    dsimp only at hfold
    have hafter : s.after (.object members) = { placed s with
        totalNodes := s.totalNodes + 1 + (members.map fun m => nodeCount m.2).sum
        numberCount := (placed s).numberCount +
          (members.map fun m => numberCount m.2).sum } := by
      unfold BoundsState.after
      rw [nodeCount_object, numberCount_object, hcount, Nat.add_assoc]
    -- the closing token leaves the array as one value of its parent
    rw [hafter]
    constructor
    · rintro ⟨_, ⟨hn, hdepth, rfl⟩, hrest⟩
      obtain ⟨hkeys, hall, hns, hms, rfl⟩ := (hfold hn).mp hrest
      refine ⟨⟨hkeys.1, fun m hm => (hall m hm).1⟩, by omega, by omega, ?_, rfl⟩
      have := (hheight (maxJSONDepth - (s.containers.length + 1))).mpr fun m hm => by
        have := (hall m hm).2
        omega
      omega
    · rintro ⟨⟨hkeys, hall⟩, hn, hm, hdepth, rfl⟩
      refine ⟨_, ⟨by omega, by omega, rfl⟩, (hfold (by omega)).mpr
        ⟨⟨hkeys, by simp⟩, fun m hm => ⟨hall m hm, ?_⟩, by omega, by omega, rfl⟩⟩
      have := (hheight (maxJSONDepth - (s.containers.length + 1))).mp (by omega) m hm
      omega

variable {tree : Tree}

/-- **What `bridgeJSONWithinResourceBounds` accepts.** -/
theorem withinResourceBounds_iff {text : List Char} (hparse : JsonText.parse text = some tree) :
    bridgeJSONWithinResourceBounds text = true ↔
      tree.All TokensPlain ∧ nodeCount tree ≤ maxJSONTotalNodes ∧
      numberCount tree ≤ maxJSONNumbers ∧ 1 + tree.height ≤ maxJSONDepth := by
  have hready : Ready .initial := ⟨nofun, Nat.zero_le _, Nat.zero_le _⟩
  have hreads := fun s' => readsTokens tree .initial s' hready
  unfold bridgeJSONWithinResourceBounds
  rw [hparse]
  dsimp only
  rcases hfold : (tokens tree).foldlM boundsStep .initial with _ | s'
  · refine ⟨nofun, fun h => ?_⟩
    have hsome := (hreads _).mpr ⟨h.1, by simpa [BoundsState.initial] using h.2.1,
      by simpa [BoundsState.initial] using h.2.2.1,
      by simpa [BoundsState.initial] using h.2.2.2, rfl⟩
    rw [hfold] at hsome
    cases hsome
  · obtain ⟨hplain, hn, hm, hdepth, rfl⟩ := (hreads _).mp hfold
    exact ⟨fun _ => ⟨hplain, by simpa [BoundsState.initial] using hn,
      by simpa [BoundsState.initial] using hm, by simpa [BoundsState.initial] using hdepth⟩,
      fun _ => rfl⟩

/-! ## The decoded value -/

/-- **The Bridge's value** of a tree whose keys are distinct. -/
def bridgeValue (tree : Tree) : GoValue := tree.map id goString

theorem distinct_of_tokens (h : tree.All TokensPlain) :
    (bridgeValue tree).All JsonValue.DistinctKeys := by
  refine (JsonValue.all_map _ _ _ _).mpr (h.imp fun u hu => ?_)
  cases u with
  | array entries => rw [JsonValue.map_array]; trivial
  | object members =>
    rw [JsonValue.map_object]
    change ((members.map fun m => (goString m.1, m.2.map id goString)).map (·.1)).Nodup
    rw [List.map_map]
    exact hu
  | _ => trivial

theorem decoded_eq (h : tree.All TokensPlain) :
    decoded tree = bridgeValue tree :=
  JsonValue.lastWins_of_distinct (distinct_of_tokens h)

/-! ## The count of values -/

variable {depth count : Nat}

theorem stringWithinBounds_some {c : Nat} :
    stringWithinBounds depth count = some c ↔
      depth ≤ 24 ∧ count + 1 ≤ maximumValues ∧ c = count + 1 := by
  unfold stringWithinBounds maximumValues
  split
  · next h => exact ⟨nofun, fun h' => by omega⟩
  · next h =>
    rw [Option.some.injEq, eq_comm]
    exact ⟨fun h' => ⟨by omega, by omega, h'⟩, fun h' => h'.2.2⟩

/-- What `executionValueWithinBounds` does with a value. -/
def Counts (g : GoValue) : Prop :=
  ∀ depth count c, executionValueWithinBounds g depth count = some c ↔
    depth + g.height ≤ 24 ∧ count + valueCount g ≤ maximumValues ∧ c = count + valueCount g

theorem entriesWithinBounds_some {entries : List GoValue} (ih : ∀ e ∈ entries, Counts e) {c : Nat}
    (hcount : count ≤ maximumValues) :
    entriesWithinBounds entries depth count = some c ↔
      (∀ e ∈ entries, depth + e.height ≤ 24) ∧
      count + entries.length + (entries.map valueCount).sum ≤ maximumValues ∧
      c = count + entries.length + (entries.map valueCount).sum := by
  induction entries generalizing count with
  | nil => simp [entriesWithinBounds, hcount, eq_comm]
  | cons e entries ihs =>
    rw [List.forall_mem_cons] at ih
    simp only [entriesWithinBounds, Option.bind_eq_bind, Option.bind_eq_some_iff,
      stringWithinBounds_some, List.forall_mem_cons, List.length_cons, List.map_cons,
      List.sum_cons]
    constructor
    · rintro ⟨_, ⟨hdepth, hin, rfl⟩, c₁, hvalue, hrest⟩
      obtain ⟨hheight, hc, rfl⟩ := (ih.1 _ _ _).mp hvalue
      obtain ⟨hall, hcs, rfl⟩ := (ihs ih.2 hc).mp hrest
      exact ⟨⟨hheight, hall⟩, by omega, by omega⟩
    · rintro ⟨⟨hheight, hall⟩, hcs, rfl⟩
      have hpos := valueCount_pos e
      refine ⟨_, ⟨by omega, by omega, rfl⟩, _, (ih.1 _ _ _).mpr ⟨hheight, by omega, rfl⟩,
        (ihs ih.2 (by omega)).mpr ⟨hall, by omega, by omega⟩⟩

theorem membersWithinBounds_eq (members : List (List Char × GoValue)) :
    membersWithinBounds members depth count =
      entriesWithinBounds (members.map (·.2)) depth count := by
  induction members generalizing count with
  | nil => rfl
  | cons m members ih => simp only [membersWithinBounds, entriesWithinBounds, List.map_cons, ih]

theorem membersWithinBounds_some {members : List (List Char × JsonValue Numeral (List Char))}
    (ih : ∀ m ∈ members, Counts m.2) {c : Nat} (hcount : count ≤ maximumValues) :
    membersWithinBounds members depth count = some c ↔
      (∀ m ∈ members, depth + m.2.height ≤ 24) ∧
      count + members.length + (members.map fun m => valueCount m.2).sum ≤ maximumValues ∧
      c = count + members.length + (members.map fun m => valueCount m.2).sum := by
  rw [membersWithinBounds_eq, entriesWithinBounds_some (List.forall_mem_map.mpr ih) hcount,
    List.forall_mem_map, List.length_map, List.map_map]
  rfl

/-- **What `executionValueWithinBounds` accepts.** -/
theorem executionValueWithinBounds_some (g : GoValue) : Counts g := by
  induction g using JsonValue.rule with
  | null | bool b | number n | string text =>
    intro depth count c
    rw [executionValueWithinBounds, stringWithinBounds_some]
    · exact Iff.rfl
    · exact nofun
    · exact nofun
  | array entries ih =>
    intro depth count c
    have hheight := JsonValue.height_array entries
    simp only [executionValueWithinBounds, Option.bind_eq_bind, Option.bind_eq_some_iff,
      stringWithinBounds_some, valueCount_array]
    constructor
    · rintro ⟨_, ⟨hdepth, hin, rfl⟩, hrest⟩
      obtain ⟨hall, hcs, rfl⟩ := (entriesWithinBounds_some ih hin).mp hrest
      have := (hheight (24 - depth)).mpr fun e he => by have := hall e he; omega
      exact ⟨by omega, by omega, by omega⟩
    · rintro ⟨hdepth, hcs, rfl⟩
      refine ⟨_, ⟨by omega, by omega, rfl⟩, (entriesWithinBounds_some ih (by omega)).mpr
        ⟨fun e he => ?_, by omega, by omega⟩⟩
      have := (hheight (24 - depth)).mp (by omega) e he
      omega
  | object members ih =>
    intro depth count c
    have hheight := JsonValue.height_object members
    simp only [executionValueWithinBounds, Option.bind_eq_bind, Option.bind_eq_some_iff,
      stringWithinBounds_some, valueCount_object]
    constructor
    · rintro ⟨_, ⟨hdepth, hin, rfl⟩, hrest⟩
      obtain ⟨hall, hcs, rfl⟩ := (membersWithinBounds_some ih hin).mp hrest
      have := (hheight (24 - depth)).mpr fun m hm => by have := hall m hm; omega
      exact ⟨by omega, by omega, by omega⟩
    · rintro ⟨hdepth, hcs, rfl⟩
      refine ⟨_, ⟨by omega, by omega, rfl⟩, (membersWithinBounds_some ih (by omega)).mpr
        ⟨fun m hm => ?_, by omega, by omega⟩⟩
      have := (hheight (24 - depth)).mp (by omega) m hm
      omega

/-! ## The whole -/

/-- **A text the Bridge accepts**, by its tree. -/
structure Accepts (source : List Char) (tree : Tree) : Prop where
  bytes : byteLength source ≤ maximumBytes
  escapes : validUnicodeEscapes false source = true
  tokens : tree.All TokensPlain
  nodes : nodeCount tree ≤ maxJSONTotalNodes
  numbers : numberCount tree ≤ maxJSONNumbers
  height : tree.height ≤ 24
  count : valueCount tree ≤ maximumValues
  plain : (bridgeValue tree).All GoPlain
  written : byteLength (JsonText.write (bridgeTree (bridgeValue tree))) ≤ maximumBytes

/-- **What the Bridge accepts**, and what it writes. -/
theorem canonicalExecutionText_some {source : List Char}
    (hparse : JsonText.parse source = some tree) (out : List Char) :
    canonicalExecutionText source = some out ↔
      Accepts source tree ∧ out = JsonText.write (bridgeTree (bridgeValue tree)) := by
  have hresources := withinResourceBounds_iff hparse
  have hheight : (bridgeValue tree).height = tree.height := JsonValue.height_map _ _ _
  have hcount : valueCount (bridgeValue tree) = valueCount tree := valueCount_map _ _ _
  have hbounds := executionValueWithinBounds_some (bridgeValue tree) 0 0
  rw [hheight, hcount] at hbounds
  unfold canonicalExecutionText executionJSONValue
  rw [hparse]
  simp only [Option.bind_eq_bind, Option.bind_eq_some_iff]
  constructor
  · rintro ⟨value, hvalue, hout⟩
    split at hvalue
    · cases hvalue
    next hin =>
    rw [not_or, not_or, Bool.not_eq_false, Bool.not_eq_false, hresources] at hin
    obtain ⟨hbytes, hescapes, hplain, hn, hm, -⟩ := hin
    simp only [Option.bind_some, Option.bind_eq_some_iff, decoded_eq hplain, hbounds] at hvalue
    obtain ⟨_, ⟨hdepth, hc, -⟩, check, hcheck, hlast⟩ := hvalue
    obtain ⟨hgo, rfl⟩ := (appendExecutionJSON_some _ _).mp hcheck
    split at hlast
    · cases hlast
    next hwritten =>
    cases hlast
    rw [hcheck] at hout
    exact ⟨⟨by omega, hescapes, hplain, hn, hm, by omega, by omega, hgo, by omega⟩,
      (Option.some.inj hout).symm⟩
  · rintro ⟨h, rfl⟩
    have happend := (appendExecutionJSON_some _ _).mpr ⟨h.plain, rfl⟩
    have hdepth : 1 + tree.height ≤ maxJSONDepth := by
      have := h.height
      unfold maxJSONDepth
      omega
    have hbytes := h.bytes
    have hheight' := h.height
    have hcount' := h.count
    have hwritten := h.written
    refine ⟨bridgeValue tree, ?_, happend⟩
    rw [if_neg]
    · simp only [Option.bind_some, Option.bind_eq_some_iff, decoded_eq h.tokens, hbounds]
      refine ⟨_, ⟨by omega, by omega, rfl⟩, _, happend, ?_⟩
      rw [if_neg (by omega)]
      rfl
    · rw [not_or, not_or, Bool.not_eq_false, Bool.not_eq_false, hresources]
      exact ⟨by omega, h.escapes, h.tokens, h.nodes, h.numbers, hdepth⟩

end AgentRoom.Contracts
