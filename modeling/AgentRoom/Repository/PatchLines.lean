import AgentRoom.Lib.FixedDigits
import Mathlib.Data.List.Nodup
import AgentRoom.Lib.Checks
import Mathlib.Data.List.GetD

/-!
# Lines of a binary patch

A line holds up to 52 bytes: a letter says how many, and each four of them are written as five
digits in base 85. The last four are filled up; Git fills them with zeros, and reads whatever is
there.
-/

namespace AgentRoom.Repository

open Except (require demand)

/-- What the limits of a patch fail with. `overflow` stands for a sum that does not fit. -/
inductive PatchError where
  | invalid
  | limit
  | overflow
  deriving DecidableEq

/-- The bytes of a text that is ASCII. -/
def ascii (text : String) : List UInt8 := text.toList.map fun c => UInt8.ofNat c.toNat

def patchAlphabet : List UInt8 :=
  ascii
    "0123456789ABCDEFGHIJKLMNOPQRSTUVWXYZabcdefghijklmnopqrstuvwxyz!#$%&()*+-;<=>?@^_`\x7b|\x7d~"

/-- `strings.IndexByte(patchAlphabet, char)`. -/
def digitOf (char : UInt8) : Option Nat := patchAlphabet.idxOf? char

/-- The count of bytes that a letter stands for. -/
def lineCount (letter : UInt8) : Option Nat :=
  if 65 ≤ letter.toNat ∧ letter.toNat ≤ 90 then some (letter.toNat - 65 + 1)
  else if 97 ≤ letter.toNat ∧ letter.toNat ≤ 122 then some (letter.toNat - 97 + 27)
  else none

/-- The bytes of a number of 32 bits, the highest first. -/
def groupBytes (value : Nat) : List UInt8 :=
  [value >>> 24, value >>> 16, value >>> 8, value].map UInt8.ofNat

/-- Five digits as four bytes. -/
def decodeGroup (chars : List UInt8) : Except PatchError (List UInt8) := do
  let digits ← chars.mapM fun char => demand (digitOf char) PatchError.invalid
  require (FixedDigits.value 85 digits ≤ 0xffffffff) PatchError.invalid
  pure (groupBytes (FixedDigits.value 85 digits))

/-- The loop over the digits of a line. -/
def decodeGroups : List UInt8 → Except PatchError (List UInt8)
  | a :: b :: c :: d :: e :: rest => do
      let group ← decodeGroup [a, b, c, d, e]
      let groups ← decodeGroups rest
      pure (group ++ groups)
  | _ => pure []

/-- **`decodePatchLine`.** -/
def decodePatchLine : List UInt8 → Except PatchError (List UInt8)
  | [] => throw .invalid
  | letter :: chars => do
      require (6 ≤ (letter :: chars).length) PatchError.invalid
      let count ← demand (lineCount letter) PatchError.invalid
      require ((letter :: chars).length = 1 + (count + 3) / 4 * 5) PatchError.invalid
      let decoded ← decodeGroups chars
      pure (decoded.take count)

/-! ## What Git writes -/

/-- The letter of a count. -/
def lineLetter (count : Nat) : UInt8 :=
  if count ≤ 26 then UInt8.ofNat (65 + count - 1) else UInt8.ofNat (97 + count - 27)

def encodeGroup (group : List UInt8) : List UInt8 :=
  (FixedDigits.digits 85 5 (FixedDigits.value 256 (group.map UInt8.toNat))).map
    fun digit => patchAlphabet.getD digit 0

def encodeGroups : List UInt8 → List UInt8
  | a :: b :: c :: d :: rest => encodeGroup [a, b, c, d] ++ encodeGroups rest
  | _ => []

/-- How many bytes fill up the last group. -/
def filling (count : Nat) : Nat := (count + 3) / 4 * 4 - count

/-- The line of some bytes, its last group filled up with `filler`. -/
def lineOf (bytes filler : List UInt8) : List UInt8 :=
  lineLetter bytes.length :: encodeGroups (bytes ++ filler)

/-- **The line that Git writes** for one to 52 bytes. -/
def encodePatchLine (bytes : List UInt8) : List UInt8 :=
  lineOf bytes (List.replicate (filling bytes.length) 0)

/-! ## Digits -/

/-- The digits are 85 different characters, and none is a space. -/
theorem space_patchAlphabet_nodup : (32 :: patchAlphabet).Nodup := by
  refine List.Nodup.of_map UInt8.toNat ?_
  rw [patchAlphabet, ascii, String.toList_ofList]
  decide +kernel

theorem patchAlphabet_nodup : patchAlphabet.Nodup :=
  (List.nodup_cons.mp space_patchAlphabet_nodup).2

theorem patchAlphabet_length : patchAlphabet.length = 85 := by
  rw [patchAlphabet, ascii, String.toList_ofList]
  rfl

theorem digitOf_getD {digit : Nat} (h : digit < 85) :
    digitOf (patchAlphabet.getD digit 0) = some digit := by
  have hlt : digit < patchAlphabet.length := patchAlphabet_length ▸ h
  rw [List.getD_eq_getElem _ _ hlt]
  refine List.idxOf?_eq_some_iff.mpr ⟨hlt, rfl, fun j hj hsame => ?_⟩
  exact List.pairwise_iff_getElem.mp patchAlphabet_nodup j digit _ hlt hj hsame

variable {char : UInt8}

theorem digitOf_some {digit : Nat} (h : digitOf char = some digit) :
    digit < 85 ∧ patchAlphabet.getD digit 0 = char := by
  obtain ⟨hlt, hget, -⟩ := List.idxOf?_eq_some_iff.mp h
  exact ⟨patchAlphabet_length ▸ hlt, (List.getD_eq_getElem _ _ hlt).trans hget⟩

variable {chars : List UInt8}

theorem mapM_digitOf_ok {digits : List Nat}
    (h : (chars.mapM fun char => demand (digitOf char) PatchError.invalid) = .ok digits) :
    digits.length = chars.length ∧ (∀ digit ∈ digits, digit < 85) ∧
      digits.map (fun digit => patchAlphabet.getD digit 0) = chars := by
  induction chars generalizing digits with
  | nil =>
    rw [List.mapM_nil] at h
    obtain rfl := Except.ok.inj h
    exact ⟨rfl, by simp, rfl⟩
  | cons char chars ih =>
    rw [List.mapM_cons] at h
    obtain ⟨digit, hdigit, h⟩ := Except.of_demand h
    obtain ⟨rest, hrest, h⟩ := Except.of_bind h
    obtain rfl := Except.ok.inj h
    obtain ⟨hlength, hsmall, hchars⟩ := ih hrest
    obtain ⟨hlt, hget⟩ := digitOf_some hdigit
    refine ⟨congrArg Nat.succ hlength, ?_, ?_⟩
    · intro x hx
      obtain rfl | hx := List.mem_cons.mp hx
      · exact hlt
      · exact hsmall x hx
    · rw [List.map_cons, hget, hchars]

theorem mapM_digitOf {digits : List Nat} (h : ∀ digit ∈ digits, digit < 85) :
    ((digits.map fun digit => patchAlphabet.getD digit 0).mapM fun char =>
      demand (digitOf char) PatchError.invalid) = .ok digits := by
  induction digits with
  | nil => rfl
  | cons digit rest ih =>
    rw [List.map_cons, List.mapM_cons, digitOf_getD (h digit List.mem_cons_self),
      ih fun x hx => h x (List.mem_cons_of_mem _ hx)]
    rfl

/-! ## Groups -/

theorem groupBytes_eq (value : Nat) :
    groupBytes value = (FixedDigits.digits 256 4 value).map UInt8.ofNat := by
  simp only [groupBytes, FixedDigits.digits, List.nil_append, List.cons_append, List.map_cons,
    List.map_nil, Nat.shiftRight_eq_div_pow, Nat.div_div_eq_div_mul]
  simp [UInt8.ofNat_eq_iff_mod_eq_toNat]

theorem toNat_map_lt (group : List UInt8) : ∀ d ∈ group.map UInt8.toNat, d < 256 := by
  intro d hd
  obtain ⟨byte, -, rfl⟩ := List.mem_map.mp hd
  exact byte.toNat_lt

variable {group : List UInt8}

theorem groupBytes_value (h : group.length = 4) :
    groupBytes (FixedDigits.value 256 (group.map UInt8.toNat)) = group := by
  have hdigits := FixedDigits.digits_value (b := 256) (group.map UInt8.toNat) (toNat_map_lt group)
  rw [List.length_map, h] at hdigits
  rw [groupBytes_eq, hdigits, List.map_map]
  exact (List.map_congr_left fun byte _ => UInt8.ofNat_toNat).trans (List.map_id group)

theorem value_groupBytes {value : Nat} (h : value ≤ 0xffffffff) :
    FixedDigits.value 256 ((groupBytes value).map UInt8.toNat) = value := by
  have hsmall : value < 256 ^ 4 := Nat.lt_of_le_of_lt h (by decide)
  rw [groupBytes_eq, List.map_map]
  have hbytes : (FixedDigits.digits 256 4 value).map (UInt8.toNat ∘ UInt8.ofNat) =
      FixedDigits.digits 256 4 value := by
    refine (List.map_congr_left fun d hd => ?_).trans (List.map_id _)
    exact Nat.mod_eq_of_lt (FixedDigits.digits_lt (by decide) hd)
  rw [hbytes, FixedDigits.value_digits hsmall]

/-- **A group is read back.** -/
theorem decodeGroup_encodeGroup (h : group.length = 4) :
    decodeGroup (encodeGroup group) = .ok group := by
  have hvalue : FixedDigits.value 256 (group.map UInt8.toNat) < 256 ^ 4 := by
    have hlt := FixedDigits.value_lt (b := 256) (group.map UInt8.toNat) (toNat_map_lt group)
    rwa [List.length_map, h] at hlt
  have hfits : FixedDigits.value 256 (group.map UInt8.toNat) < 85 ^ 5 :=
    Nat.lt_of_lt_of_le hvalue (by decide)
  unfold decodeGroup encodeGroup
  refine (Except.bind_of_ok (mapM_digitOf fun digit hdigit =>
    FixedDigits.digits_lt (by decide) hdigit)).trans ?_
  rw [FixedDigits.value_digits hfits]
  refine (Except.require_bind (Nat.le_of_lt_succ hvalue)).trans ?_
  rw [groupBytes_value h]
  rfl

/-- **A group that is read was written so.** -/
theorem decodeGroup_ok (hlength : chars.length = 5) (h : decodeGroup chars = .ok group) :
    group.length = 4 ∧ chars = encodeGroup group := by
  unfold decodeGroup at h
  obtain ⟨digits, hdigits, h⟩ := Except.of_bind h
  obtain ⟨hfits, h⟩ := Except.of_require h
  obtain rfl := Except.ok.inj h
  obtain ⟨hcount, hsmall, rfl⟩ := mapM_digitOf_ok hdigits
  refine ⟨rfl, ?_⟩
  unfold encodeGroup
  rw [value_groupBytes hfits]
  have hback := FixedDigits.digits_value digits hsmall
  rw [hcount, hlength] at hback
  rw [hback]

theorem length_encodeGroup (group : List UInt8) : (encodeGroup group).length = 5 := by
  rw [encodeGroup, List.length_map, FixedDigits.length_digits]

theorem decodeGroups_append (h : chars.length = 5) (rest : List UInt8) :
    decodeGroups (chars ++ rest) = (do
      let group ← decodeGroup chars
      let groups ← decodeGroups rest
      pure (group ++ groups)) := by
  match chars, h with
  | [a, b, c, d, e], _ => rfl

variable {n : Nat} {bytes : List UInt8}

/-- **Groups are read back.** -/
theorem decodeGroups_encodeGroups (h : bytes.length = 4 * n) :
    decodeGroups (encodeGroups bytes) = .ok bytes := by
  induction n generalizing bytes with
  | zero =>
    obtain rfl := List.eq_nil_of_length_eq_zero h
    rfl
  | succ n ih =>
    match bytes, h with
    | a :: b :: c :: d :: rest, h =>
      have hrest : rest.length = 4 * n := by
        simp only [List.length_cons] at h
        omega
      have hgroup : decodeGroup (encodeGroup [a, b, c, d]) = .ok [a, b, c, d] :=
        decodeGroup_encodeGroup rfl
      rw [encodeGroups, decodeGroups_append (length_encodeGroup _), hgroup, ih hrest]
      rfl

/-- **Groups that are read were written so.** -/
theorem decodeGroups_ok (hlength : chars.length = 5 * n) (h : decodeGroups chars = .ok bytes) :
    bytes.length = 4 * n ∧ chars = encodeGroups bytes := by
  induction n generalizing chars bytes with
  | zero =>
    obtain rfl := List.eq_nil_of_length_eq_zero hlength
    obtain rfl := Except.ok.inj h
    exact ⟨rfl, rfl⟩
  | succ n ih =>
    match chars, hlength with
    | a :: b :: c :: d :: e :: rest, hlength =>
      have hrest : rest.length = 5 * n := by
        simp only [List.length_cons] at hlength
        omega
      obtain ⟨group, hgroup, h⟩ := Except.of_bind h
      obtain ⟨groups, hgroups, h⟩ := Except.of_bind h
      obtain rfl := Except.ok.inj h
      obtain ⟨hfour, hchars⟩ := decodeGroup_ok rfl hgroup
      obtain ⟨hcount, rfl⟩ := ih hrest hgroups
      match group, hfour with
      | [w, x, y, z], _ =>
        refine ⟨?_, ?_⟩
        · simp only [List.cons_append, List.nil_append, List.length_cons, hcount]
          omega
        · change [a, b, c, d, e] ++ encodeGroups groups =
            encodeGroup [w, x, y, z] ++ encodeGroups groups
          rw [hchars]

theorem length_encodeGroups (h : bytes.length = 4 * n) :
    (encodeGroups bytes).length = 5 * n := by
  induction n generalizing bytes with
  | zero =>
    obtain rfl := List.eq_nil_of_length_eq_zero h
    rfl
  | succ n ih =>
    match bytes, h with
    | a :: b :: c :: d :: rest, h =>
      have hrest : rest.length = 4 * n := by
        simp only [List.length_cons] at h
        omega
      rw [encodeGroups, List.length_append, length_encodeGroup, ih hrest]
      omega

/-! ## Lines -/

theorem lineCount_letter {count : Nat} (hpos : 1 ≤ count) (hle : count ≤ 52) :
    lineCount (lineLetter count) = some count := by
  have hcases : ∀ n : Fin 52, lineCount (lineLetter (n.val + 1)) = some (n.val + 1) := by
    decide
  have hcount := hcases ⟨count - 1, by omega⟩
  rwa [show count - 1 + 1 = count by omega] at hcount

theorem lineCount_some {letter : UInt8} {count : Nat} (h : lineCount letter = some count) :
    1 ≤ count ∧ count ≤ 52 ∧ lineLetter count = letter := by
  unfold lineCount at h
  unfold lineLetter
  split at h
  · next hupper =>
      obtain rfl := Option.some.inj h
      refine ⟨by omega, by omega, ?_⟩
      rw [if_pos (by omega)]
      refine UInt8.toNat_inj.mp ?_
      rw [UInt8.toNat_ofNat']
      omega
  · split at h
    · next hlower =>
        obtain rfl := Option.some.inj h
        refine ⟨by omega, by omega, ?_⟩
        rw [if_neg (by omega)]
        refine UInt8.toNat_inj.mp ?_
        rw [UInt8.toNat_ofNat']
        omega
    · cases h

/-- **What `decodePatchLine` accepts**: exactly the lines of one to 52 bytes, whatever fills up
their last group. -/
theorem decodePatchLine_iff {line : List UInt8} :
    decodePatchLine line = .ok bytes ↔ 1 ≤ bytes.length ∧ bytes.length ≤ 52 ∧
      ∃ filler, filler.length = filling bytes.length ∧ line = lineOf bytes filler := by
  constructor
  · intro h
    cases line with
    | nil => cases h
    | cons letter chars =>
      obtain ⟨-, h⟩ := Except.of_require h
      obtain ⟨count, hcount, h⟩ := Except.of_demand h
      obtain ⟨hlength, h⟩ := Except.of_require h
      obtain ⟨decoded, hdecoded, h⟩ := Except.of_bind h
      obtain rfl := Except.ok.inj h
      obtain ⟨hpos, hle, rfl⟩ := lineCount_some hcount
      rw [List.length_cons, Nat.add_comm, Nat.add_left_cancel_iff, Nat.mul_comm] at hlength
      obtain ⟨hbytes, rfl⟩ := decodeGroups_ok hlength hdecoded
      -- what the letter counts is kept, the rest is filler
      have htake : (decoded.take count).length = count := by
        rw [List.length_take, hbytes]
        omega
      rw [htake]
      refine ⟨hpos, hle, decoded.drop count, ?_, ?_⟩
      · rw [List.length_drop, hbytes, filling]
        omega
      · rw [lineOf, htake, List.take_append_drop]
  · rintro ⟨hpos, hle, filler, hfiller, rfl⟩
    have hgroups : (bytes ++ filler).length = 4 * ((bytes.length + 3) / 4) := by
      rw [List.length_append, hfiller, filling]
      omega
    have hlength := length_encodeGroups hgroups
    unfold lineOf decodePatchLine
    refine (Except.require_bind ?_).trans ?_
    · rw [List.length_cons, hlength]
      omega
    refine (Except.bind_of_ok (Except.demand_eq_ok.mpr (lineCount_letter hpos hle))).trans ?_
    refine (Except.require_bind ?_).trans ?_
    · rw [List.length_cons, hlength]
      omega
    refine (Except.bind_of_ok (decodeGroups_encodeGroups hgroups)).trans ?_
    rw [List.take_left]
    rfl

theorem encodeGroup_mem (h : char ∈ encodeGroup group) :
    char ∈ patchAlphabet := by
  obtain ⟨digit, hdigit, rfl⟩ := List.mem_map.mp h
  have hlt : digit < patchAlphabet.length :=
    patchAlphabet_length ▸ FixedDigits.digits_lt (by decide) hdigit
  rw [List.getD_eq_getElem _ _ hlt]
  exact List.getElem_mem hlt

theorem encodeGroups_mem (bytes : List UInt8) :
    char ∈ encodeGroups bytes → char ∈ patchAlphabet := by
  fun_induction encodeGroups bytes with
  | case1 a b c d rest ih =>
    intro h
    exact (List.mem_append.mp h).elim encodeGroup_mem ih
  | case2 => exact fun h => absurd h List.not_mem_nil

theorem space_not_mem : (32 : UInt8) ∉ patchAlphabet :=
  (List.nodup_cons.mp space_patchAlphabet_nodup).1

theorem not_space_of_decoded {line : List UInt8} (h : decodePatchLine line = .ok bytes) :
    32 ∉ line := by
  rw [decodePatchLine_iff] at h
  obtain ⟨hpos, hle, filler, -, rfl⟩ := h
  intro hspace
  obtain hletter | hchars := List.mem_cons.mp hspace
  · have hcount := lineCount_letter hpos hle
    rw [← hletter] at hcount
    exact absurd hcount (by simp [lineCount])
  · exact space_not_mem (encodeGroups_mem _ hchars)

/-- **What Git writes is read back.** -/
theorem decodePatchLine_encode (hpos : 1 ≤ bytes.length) (hle : bytes.length ≤ 52) :
    decodePatchLine (encodePatchLine bytes) = .ok bytes := by
  rw [decodePatchLine_iff]
  exact ⟨hpos, hle, _, List.length_replicate, rfl⟩

/-- **Not every line that is read is one that Git writes**: this one fills up with a one. -/
theorem decodePatchLine_fills :
    decodePatchLine (ascii "A00001") = .ok [0] ∧ ∀ bytes : List UInt8, 1 ≤ bytes.length →
      bytes.length ≤ 52 → encodePatchLine bytes ≠ ascii "A00001" := by
  have hread : decodePatchLine (ascii "A00001") = .ok [0] := by decide +kernel
  refine ⟨hread, fun bytes hpos hle hsame => ?_⟩
  have hback := decodePatchLine_encode hpos hle
  rw [hsame, hread] at hback
  obtain rfl := Except.ok.inj hback
  exact absurd hsame (by decide +kernel)

end AgentRoom.Repository
