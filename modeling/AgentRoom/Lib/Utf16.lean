import Mathlib.Data.List.Sort
import Mathlib.Data.UInt

/-!
# Texts and their UTF-16 code units

A text is a list of characters. Its code units are one number below `0x10000` for
each character of the basic plane and a surrogate pair for each other one. `decode`
reads them back and fails on an unpaired surrogate, so it accepts exactly the
encodings, and texts are equal when their code units are.
-/

namespace Utf16

/-- A first surrogate. -/
def isHigh (u : UInt16) : Bool := 0xD800 ≤ u.toNat && u.toNat ≤ 0xDBFF

/-- A second surrogate. -/
def isLow (u : UInt16) : Bool := 0xDC00 ≤ u.toNat && u.toNat ≤ 0xDFFF

/-- The code units of a character. -/
def units (c : Char) : List UInt16 :=
  if c.toNat < 0x10000 then [UInt16.ofNat c.toNat]
  else
    [UInt16.ofNat (0xD800 + (c.toNat - 0x10000) / 0x400),
      UInt16.ofNat (0xDC00 + (c.toNat - 0x10000) % 0x400)]

/-- The code units of a text. -/
def encode (text : List Char) : List UInt16 := text.flatMap units

/-- The character of a surrogate pair. -/
def pair (high low : UInt16) : Char :=
  Char.ofNat (0x10000 + (high.toNat - 0xD800) * 0x400 + (low.toNat - 0xDC00))

/-- The text of some code units, if every surrogate is paired. -/
def decode : List UInt16 → Option (List Char)
  | [] => some []
  | u :: us =>
    if isHigh u then
      match us with
      | v :: us => if isLow v then (decode us).map (pair u v :: ·) else none
      | [] => none
    else if isLow u then none
    else (decode us).map (Char.ofNat u.toNat :: ·)

/-- The text of some code units, with `U+FFFD` for each unpaired surrogate. -/
def decodeLossy : List UInt16 → List Char
  | [] => []
  | u :: us =>
    if isHigh u then
      match us with
      | v :: us =>
        if isLow v then pair u v :: decodeLossy us else '\uFFFD' :: decodeLossy (v :: us)
      | [] => ['\uFFFD']
    else if isLow u then '\uFFFD' :: decodeLossy us
    else Char.ofNat u.toNat :: decodeLossy us

variable {u : UInt16}

theorem decode_plain (hhigh : isHigh u = false) (hlow : isLow u = false) (us : List UInt16) :
    decode (u :: us) = (decode us).map (Char.ofNat u.toNat :: ·) := by
  simp [decode.eq_def (u :: us), hhigh, hlow]

theorem decode_surrogates {v : UInt16} (hhigh : isHigh u = true) (hlow : isLow v = true)
    (us : List UInt16) : decode (u :: v :: us) = (decode us).map (pair u v :: ·) := by
  simp [decode.eq_def (u :: v :: us), hhigh, hlow]

/-! ## Characters -/

theorem toNat_ofNat {n : Nat} (h : n < 0xD800 ∨ 0xDFFF < n ∧ n < 0x110000) :
    (Char.ofNat n).toNat = n := by
  have hvalid : n.isValidChar := by
    rcases h with h | ⟨h, h'⟩
    · exact .inl h
    · exact .inr ⟨h, h'⟩
  unfold Char.ofNat
  rw [dif_pos hvalid]
  rfl

theorem toNat_valid (c : Char) :
    c.toNat < 0xD800 ∨ 0xDFFF < c.toNat ∧ c.toNat < 0x110000 := c.valid

theorem toNat_unit {n : Nat} (h : n < 0x10000) : (UInt16.ofNat n).toNat = n := by
  rw [UInt16.toNat_ofNat']
  exact Nat.mod_eq_of_lt h

/-- A character of the basic plane is its own unit, and no surrogate. -/
theorem decode_basic {c : Char} (h : c.toNat < 0x10000) (us : List UInt16) :
    decode (UInt16.ofNat c.toNat :: us) = (decode us).map (c :: ·) := by
  have hunit := toNat_unit h
  have hvalid := toNat_valid c
  have hhigh : isHigh (UInt16.ofNat c.toNat) = false := by
    unfold isHigh
    rw [hunit]
    simp
    omega
  have hlow : isLow (UInt16.ofNat c.toNat) = false := by
    unfold isLow
    rw [hunit]
    simp
    omega
  rw [decode_plain hhigh hlow, hunit, Char.ofNat_toNat]

/-- The pair of a character beyond the basic plane decodes to it. -/
theorem decode_pair {c : Char} (h : ¬ c.toNat < 0x10000) (us : List UInt16) :
    decode (UInt16.ofNat (0xD800 + (c.toNat - 0x10000) / 0x400) ::
      UInt16.ofNat (0xDC00 + (c.toNat - 0x10000) % 0x400) :: us) = (decode us).map (c :: ·) := by
  have hvalid := toNat_valid c
  have hdiv : (c.toNat - 0x10000) / 0x400 < 0x400 := by omega
  have hmod : (c.toNat - 0x10000) % 0x400 < 0x400 := Nat.mod_lt _ (by decide)
  have hfirst := @toNat_unit (0xD800 + (c.toNat - 0x10000) / 0x400) (by omega)
  have hsecond := @toNat_unit (0xDC00 + (c.toNat - 0x10000) % 0x400) (by omega)
  have hhigh : isHigh (UInt16.ofNat (0xD800 + (c.toNat - 0x10000) / 0x400)) = true := by
    unfold isHigh
    rw [hfirst]
    simp
    omega
  have hlow : isLow (UInt16.ofNat (0xDC00 + (c.toNat - 0x10000) % 0x400)) = true := by
    unfold isLow
    rw [hsecond]
    simp
    omega
  have hpair : pair (UInt16.ofNat (0xD800 + (c.toNat - 0x10000) / 0x400))
      (UInt16.ofNat (0xDC00 + (c.toNat - 0x10000) % 0x400)) = c := by
    unfold pair
    rw [hfirst, hsecond]
    have hsum : 0x10000 + (0xD800 + (c.toNat - 0x10000) / 0x400 - 0xD800) * 0x400 +
        (0xDC00 + (c.toNat - 0x10000) % 0x400 - 0xDC00) = c.toNat := by omega
    rw [hsum, Char.ofNat_toNat]
  rw [decode_surrogates hhigh hlow, hpair]

/-! ## Round trips -/

theorem encode_cons (c : Char) (text : List Char) : encode (c :: text) = units c ++ encode text :=
  List.flatMap_cons

theorem decode_units_append (c : Char) (us : List UInt16) :
    decode (units c ++ us) = (decode us).map (c :: ·) := by
  unfold units
  split
  · next h => exact decode_basic h us
  · next h => exact decode_pair h us

/-- **Encoding loses nothing.** -/
theorem decode_encode (text : List Char) : decode (encode text) = some text := by
  induction text with
  | nil => rfl
  | cons c text ih => rw [encode_cons, decode_units_append, ih]; rfl

theorem encode_injective : Function.Injective encode := by
  intro s t h
  have hs := decode_encode s
  rw [h, decode_encode] at hs
  exact (Option.some.inj hs).symm

theorem units_ofNat (hhigh : isHigh u = false) (hlow : isLow u = false) :
    units (Char.ofNat u.toNat) = [u] := by
  have hlt := u.toNat_lt
  have hvalid : u.toNat < 0xD800 ∨ 0xDFFF < u.toNat ∧ u.toNat < 0x110000 := by
    simp [isHigh, isLow] at hhigh hlow
    omega
  unfold units
  rw [toNat_ofNat hvalid, if_pos (by omega), UInt16.ofNat_toNat]

theorem units_pair {v : UInt16} (hhigh : isHigh u = true) (hlow : isLow v = true) :
    units (pair u v) = [u, v] := by
  simp [isHigh, isLow] at hhigh hlow
  have hnat := @toNat_ofNat (0x10000 + (u.toNat - 0xD800) * 0x400 + (v.toNat - 0xDC00))
    (by omega)
  unfold units pair
  rw [hnat, if_neg (by omega)]
  have hfirst : 0xD800 + (0x10000 + (u.toNat - 0xD800) * 0x400 + (v.toNat - 0xDC00) - 0x10000) /
      0x400 = u.toNat := by omega
  have hsecond : 0xDC00 + (0x10000 + (u.toNat - 0xD800) * 0x400 + (v.toNat - 0xDC00) - 0x10000) %
      0x400 = v.toNat := by omega
  rw [hfirst, hsecond, UInt16.ofNat_toNat, UInt16.ofNat_toNat]

/-- What holds of the text of a pair, and of a unit that is no surrogate, when it holds of the text
that follows. -/
theorem decode_induction {P : List UInt16 → List Char → Prop} (nil : P [] [])
    (paired : ∀ u v us text, isHigh u = true → isLow v = true → P us text →
      P (u :: v :: us) (pair u v :: text))
    (plain : ∀ u us text, isHigh u = false → isLow u = false → P us text →
      P (u :: us) (Char.ofNat u.toNat :: text))
    {us : List UInt16} {text : List Char} (h : decode us = some text) : P us text := by
  induction us using decode.induct generalizing text with
  | case1 => cases h; exact nil
  | case2 u hhigh v us hlow ih =>
    rw [decode_surrogates hhigh hlow, Option.map_eq_some_iff] at h
    obtain ⟨rest, hrest, rfl⟩ := h
    exact paired u v us rest hhigh hlow (ih hrest)
  | case3 u hhigh v us hlow => simp [decode.eq_def (u :: v :: us), hhigh, hlow] at h
  | case4 u hhigh => simp [decode.eq_def [u], hhigh] at h
  | case5 u us hhigh hlow => simp [decode.eq_def (u :: us), hhigh, hlow] at h
  | case6 u us hhigh hlow ih =>
    have hhigh' : isHigh u = false := by simpa using hhigh
    have hlow' : isLow u = false := by simpa using hlow
    rw [decode_plain hhigh' hlow', Option.map_eq_some_iff] at h
    obtain ⟨rest, hrest, rfl⟩ := h
    exact plain u us rest hhigh' hlow' (ih hrest)

/-- **Decoding loses nothing.** -/
theorem encode_of_decode {us : List UInt16} {text : List Char} (h : decode us = some text) :
    encode text = us := by
  refine decode_induction (P := fun us text => encode text = us) rfl ?_ ?_ h
  · intro u v us text hhigh hlow ih
    rw [encode_cons, ih, units_pair hhigh hlow]
    rfl
  · intro u us text hhigh hlow ih
    rw [encode_cons, ih, units_ofNat hhigh hlow]
    rfl

/-- Nothing is lost where every surrogate is paired. -/
theorem decodeLossy_of_decode {us : List UInt16} {text : List Char} (h : decode us = some text) :
    decodeLossy us = text := by
  refine decode_induction (P := fun us text => decodeLossy us = text) rfl ?_ ?_ h
  · intro u v us text hhigh hlow ih
    simp [decodeLossy, hhigh, hlow, ih]
  · intro u us text hhigh hlow ih
    rw [decodeLossy.eq_def]
    simp [hhigh, hlow, ih]

theorem decodeLossy_encode (text : List Char) : decodeLossy (encode text) = text :=
  decodeLossy_of_decode (decode_encode text)

end Utf16
