import Mathlib.Data.Nat.Digits.Defs
import Mathlib.Data.Rat.Defs
import Mathlib.Algebra.Field.Rat
import Mathlib.Data.Nat.Digits.Lemmas
import Mathlib.Tactic.Ring
import AgentRoom.Lib.JsonValue
import AgentRoom.Lib.Utf16

/-!
# JSON texts

The syntax tree of a JSON text, the parser, and the writer. A string is its code
units, so an escaped surrogate that stands alone has a place in the tree; a numeral
keeps its digits, since two numerals of one value are two texts.

The writer escapes what has to be escaped and no more. Reading back what it wrote
gives the same tree.
-/

namespace JsonText

/-! ## Numerals -/

/-- `e`, a sign and digits. -/
structure Exponent where
  negative : Option Bool
  digits : List Nat

/-- A number as it is written. -/
structure Numeral where
  negative : Bool
  whole : List Nat
  fraction : List Nat
  exponent : Option Exponent

/-- The number some digits write. -/
def digitsValue (digits : List Nat) : Nat := Nat.ofDigits 10 digits.reverse

namespace Exponent

def value (e : Exponent) : Int :=
  if e.negative = some true then -(digitsValue e.digits : Int) else digitsValue e.digits

def signText : Option Bool → List Char
  | none => []
  | some true => ['-']
  | some false => ['+']

def text (e : Exponent) : List Char :=
  'e' :: (signText e.negative ++ e.digits.map Nat.digitChar)

end Exponent

namespace Numeral

/-- The number written. -/
def value (n : Numeral) : ℚ :=
  (if n.negative then -1 else 1) * (digitsValue (n.whole ++ n.fraction) : ℚ) *
    (10 : ℚ) ^ ((match n.exponent with
      | none => 0
      | some e => e.value) - (n.fraction.length : Int))

def fractionText : List Nat → List Char
  | [] => []
  | d :: ds => '.' :: (d :: ds).map Nat.digitChar

def exponentText : Option Exponent → List Char
  | none => []
  | some e => e.text

def text (n : Numeral) : List Char :=
  (if n.negative then ['-'] else []) ++ (n.whole.map Nat.digitChar ++
    (fractionText n.fraction ++ exponentText n.exponent))

/-- The grammar's numbers: no leading zero, no empty run of digits. -/
structure Valid (n : Numeral) : Prop where
  whole : n.whole ≠ []
  leading : ∀ d ds, n.whole ≠ 0 :: d :: ds
  digits : ∀ d ∈ n.whole ++ n.fraction, d < 10
  exponent : ∀ e, n.exponent = some e → e.digits ≠ [] ∧ ∀ d ∈ e.digits, d < 10

/-- The decimal digits of a number, the first one first. -/
def decimal (n : Nat) : List Nat := if n = 0 then [0] else (Nat.digits 10 n).reverse

/-- An integer in decimal. -/
def ofInt (i : Int) : Numeral where
  negative := i < 0
  whole := decimal i.natAbs
  fraction := []
  exponent := none

end Numeral

/-! ## Syntax trees -/

/-- A JSON text, parsed. -/
abbrev Tree := JsonValue Numeral (List UInt16)

/-! ## Reading -/

def isSpace (c : Char) : Bool := c = ' ' || c = '\t' || c = '\n' || c = '\r'

def skipSpace (cs : List Char) : List Char := cs.dropWhile isSpace

def isDigit (c : Char) : Bool := 48 ≤ c.toNat && c.toNat ≤ 57

/-- The longest run of digits. -/
def readDigits : List Char → List Nat × List Char
  | [] => ([], [])
  | c :: cs =>
    if isDigit c then ((c.toNat - 48) :: (readDigits cs).1, (readDigits cs).2) else ([], c :: cs)

def readSign : List Char → Option Bool × List Char
  | '-' :: cs => (some true, cs)
  | '+' :: cs => (some false, cs)
  | cs => (none, cs)

def readExponent : List Char → Option (Option Exponent × List Char)
  | c :: cs =>
    if c = 'e' ∨ c = 'E' then
      match readDigits (readSign cs).2 with
      | ([], _) => none
      | (digits, rest) => some (some { negative := (readSign cs).1, digits }, rest)
    else some (none, c :: cs)
  | [] => some (none, [])

def readFraction : List Char → Option (List Nat × List Char)
  | '.' :: cs =>
    match readDigits cs with
    | ([], _) => none
    | (digits, rest) => some (digits, rest)
  | cs => some ([], cs)

/-- The part of a numeral after its sign. -/
def readUnsigned (negative : Bool) (cs : List Char) : Option (Numeral × List Char) :=
  match readDigits cs with
  | ([], _) => none
  | (0 :: _ :: _, _) => none
  | (whole, cs) => do
      let (fraction, cs) ← readFraction cs
      let (exponent, cs) ← readExponent cs
      pure ({ negative, whole, fraction, exponent }, cs)

def readNumber : List Char → Option (Numeral × List Char)
  | '-' :: cs => readUnsigned true cs
  | cs => readUnsigned false cs

def hexValue (c : Char) : Option Nat :=
  if 48 ≤ c.toNat ∧ c.toNat ≤ 57 then some (c.toNat - 48)
  else if 97 ≤ c.toNat ∧ c.toNat ≤ 102 then some (c.toNat - 87)
  else if 65 ≤ c.toNat ∧ c.toNat ≤ 70 then some (c.toNat - 55)
  else none

/-- The code unit of four hexadecimal digits. -/
def readHex (a b c d : Char) : Option UInt16 := do
  let a ← hexValue a
  let b ← hexValue b
  let c ← hexValue c
  let d ← hexValue d
  pure (UInt16.ofNat (((a * 16 + b) * 16 + c) * 16 + d))

/-- The character a one-letter escape stands for. -/
def simpleEscape : Char → Option Char
  | '"' => some '"'
  | '\\' => some '\\'
  | '/' => some '/'
  | 'b' => some '\x08'
  | 'f' => some '\x0c'
  | 'n' => some '\n'
  | 'r' => some '\r'
  | 't' => some '\t'
  | _ => none

/-- A string after its opening quote. -/
def readString : List Char → Option (List UInt16 × List Char)
  | [] => none
  | '"' :: rest => some ([], rest)
  | '\\' :: 'u' :: a :: b :: c :: d :: rest =>
    match readHex a b c d, readString rest with
    | some u, some (units, rest) => some (u :: units, rest)
    | _, _ => none
  | '\\' :: e :: rest =>
    match simpleEscape e, readString rest with
    | some c, some (units, rest) => some (Utf16.units c ++ units, rest)
    | _, _ => none
  | c :: rest =>
    if c = '\\' ∨ c.toNat < 0x20 then none
    else
      match readString rest with
      | some (units, rest) => some (Utf16.units c ++ units, rest)
      | none => none

mutual

/-- A value, and what follows it. -/
def readValue : Nat → List Char → Option (Tree × List Char)
  | 0, _ => none
  | fuel + 1, cs =>
    match skipSpace cs with
    | 'n' :: 'u' :: 'l' :: 'l' :: rest => some (.null, rest)
    | 't' :: 'r' :: 'u' :: 'e' :: rest => some (.bool true, rest)
    | 'f' :: 'a' :: 'l' :: 's' :: 'e' :: rest => some (.bool false, rest)
    | '"' :: rest => (readString rest).map fun (units, rest) => (.string units, rest)
    | '[' :: rest =>
      match skipSpace rest with
      | ']' :: rest => some (.array [], rest)
      | _ => (readEntries fuel rest).map fun (entries, rest) => (.array entries, rest)
    | '{' :: rest =>
      match skipSpace rest with
      | '}' :: rest => some (.object [], rest)
      | _ => (readMembers fuel rest).map fun (members, rest) => (.object members, rest)
    | rest => (readNumber rest).map fun (numeral, rest) => (.number numeral, rest)

/-- The entries of an array up to its closing bracket, at least one. -/
def readEntries : Nat → List Char → Option (List Tree × List Char)
  | 0, _ => none
  | fuel + 1, cs => do
      let (entry, rest) ← readValue fuel cs
      match skipSpace rest with
      | ',' :: rest =>
        let (entries, rest) ← readEntries fuel rest
        pure (entry :: entries, rest)
      | ']' :: rest => pure ([entry], rest)
      | _ => none

/-- The members of an object up to its closing brace, at least one. -/
def readMembers : Nat → List Char → Option (List (List UInt16 × Tree) × List Char)
  | 0, _ => none
  | fuel + 1, cs => do
      match skipSpace cs with
      | '"' :: rest =>
        let (key, rest) ← readString rest
        match skipSpace rest with
        | ':' :: rest =>
          let (value, rest) ← readValue fuel rest
          match skipSpace rest with
          | ',' :: rest =>
            let (members, rest) ← readMembers fuel rest
            pure ((key, value) :: members, rest)
          | '}' :: rest => pure ([(key, value)], rest)
          | _ => none
        | _ => none
      | _ => none

end

/-- **The tree of a text**, which is one value and nothing else. -/
def parse (text : List Char) : Option Tree :=
  match readValue (text.length + 1) text with
  | some (tree, rest) => if skipSpace rest = [] then some tree else none
  | none => none

/-! ## Writing -/

/-- A hexadecimal digit, in lower case. -/
def hexChar (n : Nat) : Char := if n < 10 then Char.ofNat (48 + n) else Char.ofNat (87 + n)

/-- A code unit as four hexadecimal digits. -/
def hexEscape (u : UInt16) : List Char :=
  ['\\', 'u', hexChar (u.toNat / 4096), hexChar (u.toNat / 256 % 16), hexChar (u.toNat / 16 % 16),
    hexChar (u.toNat % 16)]

/-- The escapes of the characters that have to be escaped. -/
def escapeChar (c : Char) : List Char :=
  if c = '"' then ['\\', '"']
  else if c = '\\' then ['\\', '\\']
  else if c = '\x08' then ['\\', 'b']
  else if c = '\x0c' then ['\\', 'f']
  else if c = '\n' then ['\\', 'n']
  else if c = '\r' then ['\\', 'r']
  else if c = '\t' then ['\\', 't']
  else if c.toNat < 0x20 then hexEscape (UInt16.ofNat c.toNat)
  else [c]

/-- The characters of a string: an unpaired surrogate is escaped. -/
def escape : List UInt16 → List Char
  | [] => []
  | [u] =>
    if Utf16.isHigh u || Utf16.isLow u then hexEscape u else escapeChar (Char.ofNat u.toNat)
  | u :: v :: us =>
    if Utf16.isHigh u && Utf16.isLow v then Utf16.pair u v :: escape us
    else if Utf16.isHigh u || Utf16.isLow u then hexEscape u ++ escape (v :: us)
    else escapeChar (Char.ofNat u.toNat) ++ escape (v :: us)

def quote (units : List UInt16) : List Char := '"' :: escape units ++ ['"']

mutual

def write : Tree → List Char
  | .null => ['n', 'u', 'l', 'l']
  | .bool true => ['t', 'r', 'u', 'e']
  | .bool false => ['f', 'a', 'l', 's', 'e']
  | .number numeral => numeral.text
  | .string units => quote units
  | .array [] => ['[', ']']
  | .array (entry :: entries) => '[' :: write entry ++ writeEntries entries
  | .object [] => ['{', '}']
  | .object ((key, value) :: members) =>
    '{' :: quote key ++ ':' :: write value ++ writeMembers members

/-- The entries after the first one, and the bracket. -/
def writeEntries : List Tree → List Char
  | [] => [']']
  | entry :: entries => ',' :: write entry ++ writeEntries entries

/-- The members after the first one, and the brace. -/
def writeMembers : List (List UInt16 × Tree) → List Char
  | [] => ['}']
  | (key, value) :: members => ',' :: quote key ++ ':' :: write value ++ writeMembers members

end

/-! ## Integers -/

theorem decimal_lt (n : Nat) : ∀ d ∈ Numeral.decimal n, d < 10 := by
  intro d hd
  unfold Numeral.decimal at hd
  split at hd
  · simp at hd
    omega
  · rw [List.mem_reverse] at hd
    exact Nat.digits_lt_base (by decide) hd

theorem digitsValue_decimal (n : Nat) : digitsValue (Numeral.decimal n) = n := by
  unfold digitsValue Numeral.decimal
  split
  · next h => rw [h]; rfl
  · rw [List.reverse_reverse, Nat.ofDigits_digits]

theorem ofInt_valid (i : Int) : (Numeral.ofInt i).Valid where
  whole := by
    unfold Numeral.ofInt Numeral.decimal
    dsimp only
    split
    · simp
    · next h => simpa using Nat.digits_ne_nil_iff_ne_zero.mpr h
  leading := by
    intro d ds h
    unfold Numeral.ofInt Numeral.decimal at h
    dsimp only at h
    split at h
    · simp at h
    · next hne =>
      have hlast := Nat.getLast_digit_ne_zero 10 hne
      have hdigits : Nat.digits 10 i.natAbs = (d :: ds).reverse ++ [0] := by
        rw [← List.reverse_reverse (Nat.digits 10 i.natAbs), h]
        simp
      simp [hdigits] at hlast
  digits := by
    intro d hd
    exact decimal_lt i.natAbs d (by simpa [Numeral.ofInt] using hd)
  exponent := by
    intro e he
    cases he

/-- **An integer is written as itself.** -/
theorem ofInt_value (i : Int) : (Numeral.ofInt i).value = i := by
  unfold Numeral.value Numeral.ofInt
  dsimp only
  rw [List.append_nil, digitsValue_decimal]
  simp only [List.length_nil, Nat.cast_zero, sub_zero, zpow_zero, mul_one]
  by_cases hneg : i < 0
  · rw [if_pos (by simpa using hneg)]
    have : (i : ℚ) = -(i.natAbs : ℚ) := by
      rw [← Int.cast_natCast, ← Int.cast_neg]
      congr 1
      omega
    rw [this]
    ring
  · rw [if_neg (by simpa using hneg)]
    have : (i : ℚ) = (i.natAbs : ℚ) := by
      rw [← Int.cast_natCast]
      congr 1
      omega
    rw [this]
    ring

/-! ## Strings read back -/

theorem hexValue_hexChar {n : Nat} (h : n < 16) : hexValue (hexChar n) = some n := by
  unfold hexChar
  split
  · next hlt =>
    have htoNat := @Utf16.toNat_ofNat (48 + n) (by omega)
    unfold hexValue
    rw [htoNat, if_pos (by omega)]
    congr 1
    omega
  · next hge =>
    have htoNat := @Utf16.toNat_ofNat (87 + n) (by omega)
    unfold hexValue
    rw [htoNat, if_neg (by omega), if_pos (by omega)]
    congr 1
    omega

theorem readString_hexEscape (u : UInt16) (cs : List Char) :
    readString (hexEscape u ++ cs) =
      (readString cs).map fun (units, rest) => (u :: units, rest) := by
  have hlt := u.toNat_lt
  have hhex : readHex (hexChar (u.toNat / 4096)) (hexChar (u.toNat / 256 % 16))
      (hexChar (u.toNat / 16 % 16)) (hexChar (u.toNat % 16)) = some u := by
    unfold readHex
    rw [hexValue_hexChar (by omega), hexValue_hexChar (by omega), hexValue_hexChar (by omega),
      hexValue_hexChar (by omega)]
    have hsum : ((u.toNat / 4096 * 16 + u.toNat / 256 % 16) * 16 + u.toNat / 16 % 16) * 16 +
        u.toNat % 16 = u.toNat := by omega
    simp only [Option.bind_eq_bind, Option.bind_some, hsum, UInt16.ofNat_toNat]
    rfl
  change readString ('\\' :: 'u' :: _ :: _ :: _ :: _ :: cs) = _
  rw [readString, hhex]
  rcases readString cs with _ | ⟨units, rest⟩ <;> rfl

variable {c : Char}

theorem readString_plain (hquote : c ≠ '"') (hslash : c ≠ '\\') (hspace : ¬ c.toNat < 0x20)
    (cs : List Char) :
    readString (c :: cs) =
      (readString cs).map fun (units, rest) => (Utf16.units c ++ units, rest) := by
  rw [readString]
  · rw [if_neg (by simp [hslash, hspace])]
    rcases readString cs with _ | ⟨units, rest⟩ <;> rfl
  · exact hquote
  · exact fun _ _ _ _ _ h _ => hslash h
  · exact fun _ _ h _ => hslash h

theorem readString_simple {e : Char} (he : simpleEscape e = some c) (hu : e ≠ 'u')
    (cs : List Char) :
    readString ('\\' :: e :: cs) =
      (readString cs).map fun (units, rest) => (Utf16.units c ++ units, rest) := by
  rw [readString]
  · rw [he]
    rcases readString cs with _ | ⟨units, rest⟩ <;> rfl
  · intro _ _ _ _ _ h _
    exact hu h

theorem readString_escapeChar (c : Char) (cs : List Char) :
    readString (escapeChar c ++ cs) =
      (readString cs).map fun (units, rest) => (Utf16.units c ++ units, rest) := by
  unfold escapeChar
  split
  · next h => subst h; exact readString_simple rfl (by decide) cs
  next hquote =>
  split
  · next h => subst h; exact readString_simple rfl (by decide) cs
  next hslash =>
  split
  · next h => subst h; exact readString_simple rfl (by decide) cs
  split
  · next h => subst h; exact readString_simple rfl (by decide) cs
  split
  · next h => subst h; exact readString_simple rfl (by decide) cs
  split
  · next h => subst h; exact readString_simple rfl (by decide) cs
  split
  · next h => subst h; exact readString_simple rfl (by decide) cs
  split
  · next hcontrol =>
    rw [readString_hexEscape]
    have hunits : Utf16.units c = [UInt16.ofNat c.toNat] := by
      unfold Utf16.units
      rw [if_pos (by omega)]
    rw [hunits]
    rfl
  · next hspace => exact readString_plain hquote hslash hspace cs

theorem toNat_pair {u v : UInt16} (hu : Utf16.isHigh u = true) (hv : Utf16.isLow v = true) :
    0x10000 ≤ (Utf16.pair u v).toNat := by
  simp [Utf16.isHigh, Utf16.isLow] at hu hv
  have hnat := @Utf16.toNat_ofNat (0x10000 + (u.toNat - 0xD800) * 0x400 + (v.toNat - 0xDC00))
    (by omega)
  unfold Utf16.pair
  omega

/-- **A string is read back**, unpaired surrogates and all. -/
theorem readString_escape (us : List UInt16) (rest : List Char) :
    readString (escape us ++ '"' :: rest) = some (us, rest) := by
  induction us using escape.induct with
  | case1 => rfl
  | case2 u h =>
    rw [escape, if_pos h, readString_hexEscape]
    rfl
  | case3 u h =>
    rw [escape, if_neg h, readString_escapeChar, Utf16.units_ofNat]
    · rfl
    · simp at h; exact h.1
    · simp at h; exact h.2
  | case4 u v us h ih =>
    rw [escape, if_pos h]
    rw [Bool.and_eq_true] at h
    have hbig := toNat_pair h.1 h.2
    have hne : ∀ c : Char, c.toNat < 0x10000 → Utf16.pair u v ≠ c := by
      intro c hc heq
      rw [heq] at hbig
      omega
    rw [List.cons_append, readString_plain (hne _ (by decide)) (hne _ (by decide)) (by omega), ih,
      Utf16.units_pair h.1 h.2]
    rfl
  | case5 u v us h h' ih =>
    rw [escape, if_neg h, if_pos h', List.append_assoc, readString_hexEscape, ih]
    rfl
  | case6 u v us h h' ih =>
    rw [escape, if_neg h, if_neg h', List.append_assoc, readString_escapeChar, ih,
      Utf16.units_ofNat]
    · rfl
    · simp at h'; exact h'.1
    · simp at h'; exact h'.2

/-! ## Numerals read back -/

/-- What may follow a value: nothing that would go on with a numeral. -/
def Follows (rest : List Char) : Prop :=
  ∀ c cs, rest = c :: cs → isDigit c = false ∧ c ≠ '.' ∧ c ≠ 'e' ∧ c ≠ 'E'

theorem isDigit_digitChar {d : Nat} (h : d < 10) :
    isDigit (Nat.digitChar d) = true ∧ (Nat.digitChar d).toNat - 48 = d := by
  have : (Nat.digitChar d).toNat = 48 + d := by
    rw [Nat.toNat_digitChar_of_lt_ten h]
  unfold isDigit
  rw [this]
  simp
  omega

/-- A run of digits is read up to the first character that is none. -/
theorem readDigits_map {ds : List Nat} (hds : ∀ d ∈ ds, d < 10) {rest : List Char}
    (hrest : ∀ c cs, rest = c :: cs → isDigit c = false) :
    readDigits (ds.map Nat.digitChar ++ rest) = (ds, rest) := by
  induction ds with
  | nil =>
    cases rest with
    | nil => rfl
    | cons c cs =>
      change readDigits (c :: cs) = _
      rw [readDigits, hrest c cs rfl]
      rfl
  | cons d ds ih =>
    obtain ⟨hdigit, hvalue⟩ := isDigit_digitChar (hds d (by simp))
    rw [List.map_cons, List.cons_append, readDigits, if_pos hdigit, hvalue,
      ih fun d hd => hds d (by simp [hd])]

theorem digitChar_ne {d : Nat} (h : d < 10) (hc : isDigit c = false) :
    Nat.digitChar d ≠ c := by
  intro heq
  rw [← heq, (isDigit_digitChar h).1] at hc
  cases hc

theorem readSign_digits {ds : List Nat} (hne : ds ≠ []) (hds : ∀ d ∈ ds, d < 10)
    (rest : List Char) :
    readSign (ds.map Nat.digitChar ++ rest) = (none, ds.map Nat.digitChar ++ rest) := by
  obtain ⟨d, ds, rfl⟩ := List.exists_cons_of_ne_nil hne
  have hd := hds d (by simp)
  rw [List.map_cons, List.cons_append, readSign]
  · intro cs h
    exact digitChar_ne hd (by decide) (List.cons.inj h).1
  · intro cs h
    exact digitChar_ne hd (by decide) (List.cons.inj h).1

variable {rest : List Char}

theorem readExponent_text {e : Option Exponent}
    (hvalid : ∀ e', e = some e' → e'.digits ≠ [] ∧ ∀ d ∈ e'.digits, d < 10) (hrest : Follows rest) :
    readExponent (Numeral.exponentText e ++ rest) = some (e, rest) := by
  rcases e with _ | ⟨negative, digits⟩
  · cases rest with
    | nil => rfl
    | cons c cs =>
      obtain ⟨-, -, he, hE⟩ := hrest c cs rfl
      change readExponent (c :: cs) = _
      rw [readExponent, if_neg (by simp [he, hE])]
  · obtain ⟨hne, hds⟩ := hvalid _ rfl
    have hread := @readDigits_map _ hds rest fun c cs h => (hrest c cs h).1
    have hsign : readSign (Exponent.signText negative ++ digits.map Nat.digitChar ++ rest) =
        (negative, digits.map Nat.digitChar ++ rest) := by
      rcases negative with _ | _ | _
      · exact readSign_digits hne hds rest
      · rfl
      · rfl
    change readExponent
      ('e' :: (Exponent.signText negative ++ digits.map Nat.digitChar ++ rest)) = _
    rw [readExponent, if_pos (.inl rfl), hsign, hread]
    cases digits with
    | nil => exact absurd rfl hne
    | cons d ds => rfl

theorem exponent_head {e : Option Exponent} (hrest : Follows rest) {cs : List Char}
    (h : Numeral.exponentText e ++ rest = c :: cs) :
    isDigit c = false ∧ c ≠ '.' := by
  cases e with
  | none =>
    obtain ⟨hdigit, hdot, -, -⟩ := hrest c cs h
    exact ⟨hdigit, hdot⟩
  | some e =>
    obtain ⟨rfl, -⟩ := List.cons.inj h
    decide

theorem readFraction_text {fraction : List Nat} (hds : ∀ d ∈ fraction, d < 10)
    {tail : List Char} (htail : ∀ c cs, tail = c :: cs → isDigit c = false ∧ c ≠ '.') :
    readFraction (Numeral.fractionText fraction ++ tail) = some (fraction, tail) := by
  cases fraction with
  | nil =>
    change readFraction tail = _
    cases tail with
    | nil => rfl
    | cons c cs =>
      rw [readFraction]
      intro cs' h
      exact (htail c cs rfl).2 (List.cons.inj h).1
  | cons d ds =>
    have hread := @readDigits_map _ hds tail fun c cs h => (htail c cs h).1
    change readFraction ('.' :: ((d :: ds).map Nat.digitChar ++ tail)) = _
    rw [readFraction, hread]

variable {n : Numeral}

theorem readUnsigned_text (negative : Bool) (hn : n.Valid) (hrest : Follows rest) :
    readUnsigned negative (n.whole.map Nat.digitChar ++
      (Numeral.fractionText n.fraction ++ Numeral.exponentText n.exponent) ++ rest) =
      some ({ n with negative }, rest) := by
  have hfraction := @readFraction_text n.fraction
    (fun d hd => hn.digits d (List.mem_append_right _ hd))
    (Numeral.exponentText n.exponent ++ rest) fun _ _ h => exponent_head hrest h
  have hexponent := readExponent_text hn.exponent hrest
  have hwhole := @readDigits_map n.whole (fun d hd => hn.digits d (List.mem_append_left _ hd))
    (Numeral.fractionText n.fraction ++ (Numeral.exponentText n.exponent ++ rest))
    fun c cs h => by
      rcases hf : n.fraction with _ | ⟨d, ds⟩
      · rw [hf] at h
        exact (exponent_head hrest h).1
      · rw [hf] at h
        obtain ⟨rfl, -⟩ := List.cons.inj h
        decide
  unfold readUnsigned
  rw [List.append_assoc, List.append_assoc, hwhole]
  rcases hw : n.whole with _ | ⟨d, ds⟩
  · exact absurd hw hn.whole
  · have hlead := hn.leading
    rw [hw] at hlead
    rcases d with _ | d
    · rcases ds with _ | ⟨d', ds⟩
      · simp only [hfraction, hexponent, Option.bind_eq_bind, Option.bind_some]
        rw [← hw]
        rfl
      · exact absurd rfl (hlead d' ds)
    · simp only [hfraction, hexponent, Option.bind_eq_bind, Option.bind_some]
      rw [← hw]
      rfl

/-- **A numeral is read back.** -/
theorem readNumber_text (hn : n.Valid) (hrest : Follows rest) :
    readNumber (n.text ++ rest) = some (n, rest) := by
  obtain ⟨d, ds, hw⟩ := List.exists_cons_of_ne_nil hn.whole
  have hd : d < 10 := hn.digits d (by simp [hw])
  unfold Numeral.text
  rcases hneg : n.negative with _ | _
  · rw [if_neg (by decide), List.nil_append, readNumber]
    · rw [readUnsigned_text false hn hrest, ← hneg]
    · intro cs h
      rw [hw] at h
      exact digitChar_ne hd (by decide) (List.cons.inj h).1
  · rw [if_pos rfl, List.singleton_append, List.cons_append, readNumber,
      readUnsigned_text true hn hrest, ← hneg]

/-! ## Trees read back -/

/-- A numeral standing here is one of the grammar. -/
def ValidNumeral : Tree → Prop
  | .number numeral => numeral.Valid
  | _ => True

/-- Every numeral of the tree is one of the grammar. -/
abbrev Valid (t : Tree) : Prop := JsonValue.All ValidNumeral t

theorem skipSpace_cons (h : isSpace c = false) (cs : List Char) :
    skipSpace (c :: cs) = c :: cs := by
  unfold skipSpace
  rw [List.dropWhile_cons, h]
  rfl

theorem numeral_head (hn : n.Valid) :
    ∃ c cs, n.text = c :: cs ∧ (c = '-' ∨ isDigit c = true) := by
  obtain ⟨d, ds, hw⟩ := List.exists_cons_of_ne_nil hn.whole
  unfold Numeral.text
  rw [hw]
  rcases n.negative with _ | _
  · exact ⟨_, _, rfl, .inr (isDigit_digitChar (hn.digits d (by simp [hw]))).1⟩
  · exact ⟨_, _, rfl, .inl rfl⟩

/-- A text begins with no space and no closing bracket. -/
theorem write_head {t : Tree} (ht : Valid t) :
    ∃ c cs, write t = c :: cs ∧ isSpace c = false ∧ c ≠ ']' := by
  cases t with
  | null => exact ⟨_, _, rfl, by decide, by decide⟩
  | bool b => cases b <;> exact ⟨_, _, rfl, by decide, by decide⟩
  | string units => exact ⟨_, _, rfl, by decide, by decide⟩
  | array entries => cases entries <;> exact ⟨_, _, rfl, by decide, by decide⟩
  | object members => cases members <;> exact ⟨_, _, rfl, by decide, by decide⟩
  | number n =>
    obtain ⟨c, cs, htext, hc⟩ := numeral_head ht
    refine ⟨c, cs, htext, ?_, ?_⟩
    · rcases hc with rfl | hc
      · decide
      · by_contra hspace
        rw [Bool.not_eq_false] at hspace
        simp only [isSpace, Bool.or_eq_true, decide_eq_true_eq] at hspace
        rcases hspace with ((rfl | rfl) | rfl) | rfl <;> cases hc
    · rintro rfl
      rcases hc with hc | hc
      · exact absurd hc (by decide)
      · cases hc

theorem readValue_numeral (hc : c = '-' ∨ isDigit c = true) (fuel : Nat) (cs : List Char) :
    readValue (fuel + 1) (c :: cs) =
      (readNumber (c :: cs)).map fun (numeral, rest) => (.number numeral, rest) := by
  have hspace : isSpace c = false := by
    rcases hc with rfl | hc
    · decide
    · by_contra hspace
      rw [Bool.not_eq_false] at hspace
      simp only [isSpace, Bool.or_eq_true, decide_eq_true_eq] at hspace
      rcases hspace with ((rfl | rfl) | rfl) | rfl <;> cases hc
  have hne : ∀ c', c' ≠ '-' → isDigit c' = false → c ≠ c' := by
    rintro c' hminus hdigit rfl
    rcases hc with hc | hc
    · exact hminus hc
    · rw [hdigit] at hc
      cases hc
  rw [readValue, skipSpace_cons hspace]
  split
  · next h => exact absurd (List.cons.inj h).1 (hne 'n' (by decide) (by decide))
  · next h => exact absurd (List.cons.inj h).1 (hne 't' (by decide) (by decide))
  · next h => exact absurd (List.cons.inj h).1 (hne 'f' (by decide) (by decide))
  · next h => exact absurd (List.cons.inj h).1 (hne '"' (by decide) (by decide))
  · next h => exact absurd (List.cons.inj h).1 (hne '[' (by decide) (by decide))
  · next h => exact absurd (List.cons.inj h).1 (hne '{' (by decide) (by decide))
  · rfl

/-- With fuel for its length, what was written is read back up to what follows. -/
def Reads (t : Tree) : Prop :=
  ∀ fuel rest, (write t).length ≤ fuel → Follows rest →
    readValue fuel (write t ++ rest) = some (t, rest)

theorem follows_cons (h : isDigit c = false ∧ c ≠ '.' ∧ c ≠ 'e' ∧ c ≠ 'E') (cs : List Char) :
    Follows (c :: cs) := by
  intro c' cs' heq
  obtain ⟨rfl, -⟩ := List.cons.inj heq
  exact h

theorem follows_entries (entries : List Tree) (rest : List Char) :
    Follows (writeEntries entries ++ rest) := by
  cases entries with
  | nil => exact follows_cons (by decide) rest
  | cons entry entries => exact follows_cons (by decide) _

theorem follows_members (members : List (List UInt16 × Tree)) (rest : List Char) :
    Follows (writeMembers members ++ rest) := by
  cases members with
  | nil => exact follows_cons (by decide) rest
  | cons member members => exact follows_cons (by decide) _

theorem readString_quote (units : List UInt16) (rest : List Char) :
    readString (escape units ++ (['"'] ++ rest)) = some (units, rest) :=
  readString_escape units rest

/-- A member is its key, a colon and its value. -/
theorem readMembers_key (fuel : Nat) (key : List UInt16) (text : List Char) :
    readMembers (fuel + 1) (quote key ++ ':' :: text) =
      (readValue fuel text).bind fun (value, rest) =>
        match skipSpace rest with
        | ',' :: rest => (readMembers fuel rest).map fun (members, rest) =>
          ((key, value) :: members, rest)
        | '}' :: rest => some ([(key, value)], rest)
        | _ => none := by
  have hkey := readString_quote key (':' :: text)
  change readMembers (fuel + 1) ('"' :: (escape key ++ ['"'] ++ ':' :: text)) = _
  rw [readMembers, List.append_assoc]
  simp only [skipSpace_cons (show isSpace '"' = false by decide), hkey, Option.bind_eq_bind,
    Option.bind_some, skipSpace_cons (show isSpace ':' = false by decide)]
  rcases readValue fuel text with _ | ⟨value, rest⟩
  · rfl
  · simp only [Option.bind_some]
    split
    · next rest' heq =>
      rcases readMembers fuel rest' with _ | ⟨members, rest''⟩ <;> rfl
    · rfl
    · rfl

mutual

theorem reads : ∀ t : Tree, Valid t → Reads t
  | .null, _ => by
      intro fuel rest hfuel _
      obtain ⟨fuel, rfl⟩ : ∃ f, fuel = f + 1 := ⟨fuel - 1, by simp [write] at hfuel; omega⟩
      rfl
  | .bool true, _ => by
      intro fuel rest hfuel _
      obtain ⟨fuel, rfl⟩ : ∃ f, fuel = f + 1 := ⟨fuel - 1, by simp [write] at hfuel; omega⟩
      rfl
  | .bool false, _ => by
      intro fuel rest hfuel _
      obtain ⟨fuel, rfl⟩ : ∃ f, fuel = f + 1 := ⟨fuel - 1, by simp [write] at hfuel; omega⟩
      rfl
  | .number n, hn => by
      intro fuel rest hfuel hrest
      obtain ⟨c, cs, htext, hc⟩ := numeral_head hn
      have hread := readNumber_text hn hrest
      rw [write, htext] at hfuel ⊢
      rw [htext, List.cons_append] at hread
      obtain ⟨fuel, rfl⟩ : ∃ f, fuel = f + 1 := ⟨fuel - 1, by simp at hfuel; omega⟩
      rw [List.cons_append, readValue_numeral hc, hread]
      rfl
  | .string units, _ => by
      intro fuel rest hfuel _
      obtain ⟨fuel, rfl⟩ : ∃ f, fuel = f + 1 := ⟨fuel - 1, by simp [write, quote] at hfuel; omega⟩
      have hread := readString_quote units rest
      change (readString (escape units ++ ['"'] ++ rest)).map _ = _
      rw [List.append_assoc, hread]
      rfl
  | .array [], _ => by
      intro fuel rest hfuel _
      obtain ⟨fuel, rfl⟩ : ∃ f, fuel = f + 1 := ⟨fuel - 1, by simp [write] at hfuel; omega⟩
      rfl
  | .array (entry :: entries), h => by
      intro fuel rest hfuel _
      obtain ⟨fuel, rfl⟩ : ∃ f, fuel = f + 1 := ⟨fuel - 1, by simp [write] at hfuel; omega⟩
      have hread := readEntries_write entries h.2.2 entry (reads entry h.2.1) fuel rest
        (by simp [write] at hfuel ⊢; omega)
      obtain ⟨c, cs, htext, hspace, hbracket⟩ := write_head h.2.1
      have hmore : readValue (fuel + 1) ('[' :: (write entry ++ writeEntries entries ++ rest)) =
          (readEntries fuel (write entry ++ writeEntries entries ++ rest)).map
            fun (entries, rest) => (.array entries, rest) := by
        rw [htext, readValue, skipSpace_cons (by decide)]
        simp only [List.cons_append, skipSpace_cons hspace]
        split
        · next heq => exact absurd (List.cons.inj heq).1 hbracket
        · rfl
      change readValue (fuel + 1) ('[' :: (write entry ++ writeEntries entries ++ rest)) = _
      rw [hmore, hread]
      rfl
  | .object [], _ => by
      intro fuel rest hfuel _
      obtain ⟨fuel, rfl⟩ : ∃ f, fuel = f + 1 := ⟨fuel - 1, by simp [write] at hfuel; omega⟩
      rfl
  | .object ((key, value) :: members), h => by
      intro fuel rest hfuel _
      obtain ⟨fuel, rfl⟩ : ∃ f, fuel = f + 1 := ⟨fuel - 1, by simp [write] at hfuel; omega⟩
      have hread := readMembers_write members h.2.2 key value (reads value h.2.1) fuel rest
        (by simp [write] at hfuel ⊢; omega)
      change (readMembers fuel (quote key ++ ':' :: write value ++ writeMembers members ++
        rest)).map _ = _
      rw [hread]
      rfl

/-- The entries of an array, given how the first one reads. -/
theorem readEntries_write : ∀ entries : List Tree, JsonValue.AllEntries ValidNumeral entries →
    ∀ first : Tree, Reads first → ∀ fuel rest,
      (write first ++ writeEntries entries).length ≤ fuel →
      readEntries fuel (write first ++ writeEntries entries ++ rest) =
        some (first :: entries, rest)
  | [], _ => by
      intro first hfirst fuel rest hfuel
      obtain ⟨fuel, rfl⟩ : ∃ f, fuel = f + 1 :=
        ⟨fuel - 1, by simp [writeEntries] at hfuel; omega⟩
      have hread := hfirst fuel (writeEntries [] ++ rest) (by simp [writeEntries] at hfuel; omega)
        (follows_entries [] rest)
      rw [List.append_assoc, readEntries, hread]
      rfl
  | entry :: entries, h => by
      intro first hfirst fuel rest hfuel
      obtain ⟨fuel, rfl⟩ : ∃ f, fuel = f + 1 :=
        ⟨fuel - 1, by simp [writeEntries] at hfuel; omega⟩
      have hread := hfirst fuel (writeEntries (entry :: entries) ++ rest)
        (by simp [writeEntries] at hfuel; omega) (follows_entries (entry :: entries) rest)
      have hrest := readEntries_write entries h.2 entry (reads entry h.1) fuel rest
        (by simp [writeEntries] at hfuel ⊢; omega)
      rw [List.append_assoc, readEntries, hread]
      change ((readEntries fuel (write entry ++ writeEntries entries ++ rest)).bind _) = _
      rw [hrest]
      rfl

/-- The members of an object, given how the value of the first one reads. -/
theorem readMembers_write : ∀ members : List (List UInt16 × Tree),
    JsonValue.AllMembers ValidNumeral members →
    ∀ (key : List UInt16) (first : Tree), Reads first → ∀ fuel rest,
      (quote key ++ ':' :: write first ++ writeMembers members).length ≤ fuel →
      readMembers fuel (quote key ++ ':' :: write first ++ writeMembers members ++ rest) =
        some ((key, first) :: members, rest)
  | [], _ => by
      intro key first hfirst fuel rest hfuel
      obtain ⟨fuel, rfl⟩ : ∃ f, fuel = f + 1 :=
        ⟨fuel - 1, by simp [writeMembers] at hfuel; omega⟩
      have hread := hfirst fuel (writeMembers [] ++ rest)
        (by simp [writeMembers, quote] at hfuel ⊢; omega) (follows_members [] rest)
      rw [List.append_assoc, List.append_assoc, List.cons_append, readMembers_key, hread]
      rfl
  | (key', value) :: members, h => by
      intro key first hfirst fuel rest hfuel
      obtain ⟨fuel, rfl⟩ : ∃ f, fuel = f + 1 :=
        ⟨fuel - 1, by simp [writeMembers] at hfuel; omega⟩
      have hread := hfirst fuel (writeMembers ((key', value) :: members) ++ rest)
        (by simp [writeMembers, quote] at hfuel ⊢; omega)
        (follows_members ((key', value) :: members) rest)
      have hrest := readMembers_write members h.2 key' value (reads value h.1) fuel rest
        (by simp [writeMembers, quote] at hfuel ⊢; omega)
      rw [List.append_assoc, List.append_assoc, List.cons_append, readMembers_key, hread]
      change (readMembers fuel (quote key' ++ ':' :: write value ++ writeMembers members ++
        rest)).map _ = _
      rw [hrest]
      rfl

end

/-- **What was written is read back.** -/
theorem parse_write {t : Tree} (h : Valid t) : parse (write t) = some t := by
  have hread := reads t h ((write t).length + 1) [] (by omega) (by intro c cs heq; cases heq)
  rw [List.append_nil] at hread
  unfold parse
  rw [hread]
  rfl

end JsonText
