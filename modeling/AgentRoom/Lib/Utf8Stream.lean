import Mathlib.Data.UInt
import Mathlib.Tactic.Common

/-!
# UTF-8, one byte at a time

The decoder of UTF-8 is a machine that reads a byte at a time, and remembers the character it is
in. Fed a text in pieces it answers what it would answer the whole; fed the encoding of a text it
answers the text. A strict decoder stops at a byte that cannot come next, a lossy one answers
`U+FFFD` for it and goes on.
-/

namespace Utf8

/-- The encoding of a text. -/
def encode (text : List Char) : List UInt8 := text.flatMap String.utf8EncodeChar

@[simp] theorem encode_nil : encode [] = [] := rfl

@[simp] theorem encode_append (a b : List Char) : encode (a ++ b) = encode a ++ encode b :=
  List.flatMap_append

/-- A character whose bytes are being read: what was read of it, how many bytes come after the next
one, and in which bounds the next one is. -/
structure Partial where
  code : Nat
  more : Nat
  low : Nat
  high : Nat
  deriving DecidableEq

/-- What a byte makes: a character perhaps, and a character that it leaves open. -/
abbrev Step := Option Char × Option Partial

/-- A byte between characters. -/
def first (b : UInt8) : Option Step :=
  let n := b.toNat
  if n ≤ 0x7F then some (some (Char.ofNat n), none)
  else if 0xC2 ≤ n ∧ n ≤ 0xDF then some (none, some ⟨n - 0xC0, 0, 0x80, 0xBF⟩)
  else if n = 0xE0 then some (none, some ⟨0, 1, 0xA0, 0xBF⟩)
  else if n = 0xED then some (none, some ⟨0xD, 1, 0x80, 0x9F⟩)
  else if 0xE1 ≤ n ∧ n ≤ 0xEF then some (none, some ⟨n - 0xE0, 1, 0x80, 0xBF⟩)
  else if n = 0xF0 then some (none, some ⟨0, 2, 0x90, 0xBF⟩)
  else if 0xF1 ≤ n ∧ n ≤ 0xF3 then some (none, some ⟨n - 0xF0, 2, 0x80, 0xBF⟩)
  else if n = 0xF4 then some (none, some ⟨4, 2, 0x80, 0x8F⟩)
  else none

/-- A byte inside of a character. -/
def next (p : Partial) (b : UInt8) : Option Step :=
  let n := b.toNat
  if p.low ≤ n ∧ n ≤ p.high then
    let code := p.code * 64 + (n - 0x80)
    match p.more with
    | 0 => some (some (Char.ofNat code), none)
    | more + 1 => some (none, some ⟨code, more, 0x80, 0xBF⟩)
  else none

def step : Option Partial → UInt8 → Option Step
  | none, b => first b
  | some p, b => next p b

/-! ## The strict decoder -/

/-- Some bytes: the characters that they complete, and the one that they leave open. -/
def feed (s : Option Partial) : List UInt8 → Option (List Char × Option Partial)
  | [] => some ([], s)
  | b :: rest => do
      let (c, s) ← step s b
      let (text, s) ← feed s rest
      some (c.toList ++ text, s)

/-- The text of some bytes, if they are UTF-8. -/
def decode (bytes : List UInt8) : Option (List Char) :=
  (feed none bytes).bind fun (text, s) => if s = none then some text else none

@[simp] theorem feed_nil (s : Option Partial) : feed s [] = some ([], s) := rfl

/-- **Fed in pieces or whole**, the decoder answers the same. -/
theorem feed_append (s : Option Partial) (a b : List UInt8) :
    feed s (a ++ b) = (feed s a).bind fun (text, s') =>
      (feed s' b).map fun (more, s'') => (text ++ more, s'') := by
  induction a generalizing s with
  | nil => simp
  | cons x a ih =>
    rw [List.cons_append, feed, feed]
    cases step s x with
    | none => rfl
    | some y =>
      obtain ⟨c, s'⟩ := y
      simp only [Option.bind_eq_bind, Option.bind_some, ih]
      cases feed s' a with
      | none => rfl
      | some z =>
        obtain ⟨text, s''⟩ := z
        simp only [Option.bind_some]
        cases feed s'' b with
        | none => rfl
        | some w => simp

variable {s s' : Option Partial} {a : List UInt8} {text : List Char}

theorem feed_append_some {s'' : Option Partial} {b : List UInt8} {more : List Char}
    (ha : feed s a = some (text, s')) (hb : feed s' b = some (more, s'')) :
    feed s (a ++ b) = some (text ++ more, s'') := by
  rw [feed_append, ha, Option.bind_some]
  dsimp only
  rw [hb, Option.map_some]

/-- The text of some bytes up to the first that cannot come next, and the character that they leave
open if there is no such byte. -/
def reading (s : Option Partial) : List UInt8 → List Char × Option (Option Partial)
  | [] => ([], some s)
  | b :: rest =>
    match step s b with
    | none => ([], none)
    | some (c, s) => (c.toList ++ (reading s rest).1, (reading s rest).2)

theorem reading_append_of_feed (h : feed s a = some (text, s')) (b : List UInt8) :
    reading s (a ++ b) = (text ++ (reading s' b).1, (reading s' b).2) := by
  induction a generalizing s text with
  | nil =>
    obtain ⟨rfl, rfl⟩ := Prod.mk.inj (Option.some.inj h)
    rfl
  | cons x a ih =>
    obtain ⟨⟨c, s''⟩, hstep, h⟩ := Option.bind_eq_some_iff.mp h
    obtain ⟨⟨more, s'''⟩, hfeed, h⟩ := Option.bind_eq_some_iff.mp h
    obtain ⟨rfl, rfl⟩ := Prod.mk.inj (Option.some.inj h)
    rw [List.cons_append, reading, hstep]
    dsimp only
    rw [ih hfeed, List.append_assoc]

theorem reading_of_feed (h : feed s a = some (text, s')) : reading s a = (text, some s') := by
  have happend := reading_append_of_feed h []
  rwa [List.append_nil, reading, List.append_nil] at happend

/-- Bytes that cannot be fed stop the reading. -/
theorem reading_append_of_not_feed (h : feed s a = none) (b : List UInt8) :
    (reading s (a ++ b)).2 = none := by
  induction a generalizing s with
  | nil => cases h
  | cons x a ih =>
    rw [List.cons_append, reading]
    cases hstep : step s x with
    | none => rfl
    | some y =>
      obtain ⟨c, s'⟩ := y
      dsimp only
      refine ih ?_
      rw [feed, hstep, Option.bind_eq_bind, Option.bind_some, Option.bind_eq_bind,
        Option.bind_eq_none_iff] at h
      cases hfeed : feed s' a with
      | none => rfl
      | some z => exact absurd (h z hfeed) (by simp)

/-! ## Encodings are decoded -/

theorem toNat_ofNat {n : Nat} (h : n < 256) : (UInt8.ofNat n).toNat = n := by
  rw [UInt8.toNat_ofNat']
  omega

variable {n : Nat}

theorem next_tail {code more low high : Nat} (hn : n < 64) (hlow : low ≤ n + 0x80)
    (hhigh : n + 0x80 ≤ high) :
    next ⟨code, more + 1, low, high⟩ (UInt8.ofNat (n + 0x80)) =
      some (none, some ⟨code * 64 + n, more, 0x80, 0xBF⟩) := by
  simp only [next, toNat_ofNat (show n + 0x80 < 256 by omega)]
  rw [if_pos ⟨hlow, hhigh⟩, Nat.add_sub_cancel]

theorem next_last {code : Nat} (hn : n < 64) :
    next ⟨code, 0, 0x80, 0xBF⟩ (UInt8.ofNat (n + 0x80)) =
      some (some (Char.ofNat (code * 64 + n)), none) := by
  simp only [next, toNat_ofNat (show n + 0x80 < 256 by omega)]
  rw [if_pos ⟨by omega, by omega⟩, Nat.add_sub_cancel]

theorem first_one (h : n ≤ 0x7F) :
    first (UInt8.ofNat n) = some (some (Char.ofNat n), none) := by
  simp only [first, toNat_ofNat (show n < 256 by omega)]
  rw [if_pos h]

theorem first_two (hlow : 2 ≤ n) (hhigh : n < 32) :
    first (UInt8.ofNat (n + 0xC0)) = some (none, some ⟨n, 0, 0x80, 0xBF⟩) := by
  simp only [first, toNat_ofNat (show n + 0xC0 < 256 by omega)]
  rw [if_neg (by omega), if_pos ⟨by omega, by omega⟩, Nat.add_sub_cancel]

theorem first_three (h : n < 16) :
    first (UInt8.ofNat (n + 0xE0)) = some (none, some ⟨n, 1, if n = 0 then 0xA0 else 0x80,
      if n = 13 then 0x9F else 0xBF⟩) := by
  have hcases : ∀ n : Fin 16, first (UInt8.ofNat (n.val + 0xE0)) =
      some (none, some ⟨n.val, 1, if n.val = 0 then 0xA0 else 0x80,
        if n.val = 13 then 0x9F else 0xBF⟩) := by
    decide
  exact hcases ⟨n, h⟩

theorem first_four (h : n ≤ 4) :
    first (UInt8.ofNat (n + 0xF0)) = some (none, some ⟨n, 2, if n = 0 then 0x90 else 0x80,
      if n = 4 then 0x8F else 0xBF⟩) := by
  have hcases : ∀ n : Fin 5, first (UInt8.ofNat (n.val + 0xF0)) =
      some (none, some ⟨n.val, 2, if n.val = 0 then 0x90 else 0x80,
        if n.val = 4 then 0x8F else 0xBF⟩) := by
    decide
  exact hcases ⟨n, by omega⟩

theorem feed_cons {s s' : Option Partial} {b : UInt8} {c : Option Char}
    (h : step s b = some (c, s'))
    (rest : List UInt8) :
    feed s (b :: rest) = (feed s' rest).map fun (text, s'') => (c.toList ++ text, s'') := by
  rw [feed, h]
  simp only [Option.bind_eq_bind, Option.bind_some]
  cases feed s' rest with
  | none => rfl
  | some y => rfl

/-- **The bytes of a character are read as that character.** -/
theorem feed_char (c : Char) : feed none (String.utf8EncodeChar c) = some ([c], none) := by
  have hvalid : c.val.toNat < 0xD800 ∨ 0xDFFF < c.val.toNat ∧ c.val.toNat < 0x110000 := c.valid
  have hback : Char.ofNat c.val.toNat = c := Char.ofNat_toNat c
  unfold String.utf8EncodeChar
  dsimp only
  generalize c.val.toNat = v at hvalid hback ⊢
  rw [← hback]
  split
  · next hone => rw [feed_cons (s := none) (first_one hone)]; rfl
  split
  · next htwo =>
      rw [show v / 64 % 0x20 = v / 64 by omega,
        feed_cons (s := none) (first_two (by omega) (by omega)),
        feed_cons (s := some _) (next_last (by omega))]
      rw [show v / 64 * 64 + v % 64 = v by omega]
      rfl
  split
  · next hthree =>
      rw [show v / 4096 % 0x10 = v / 4096 by omega, feed_cons (s := none) (first_three (by omega)),
        feed_cons (s := some _) (next_tail (by omega) (by split <;> omega) (by split <;> omega)),
        feed_cons (s := some _) (next_last (by omega))]
      rw [show (v / 4096 * 64 + v / 64 % 0x40) * 64 + v % 0x40 = v by omega]
      rfl
  · rw [show v / 262144 % 0x08 = v / 262144 by omega, feed_cons (s := none) (first_four (by omega)),
      feed_cons (s := some _) (next_tail (by omega) (by split <;> omega) (by split <;> omega)),
      feed_cons (s := some _) (next_tail (by omega) (by omega) (by omega)),
      feed_cons (s := some _) (next_last (by omega))]
    rw [show
      ((v / 262144 * 64 + v / 4096 % 0x40) * 64 + v / 64 % 0x40) * 64 + v % 0x40 = v by omega]
    rfl

/-- **The encoding of a text is read as that text.** -/
theorem feed_encode (text : List Char) : feed none (encode text) = some (text, none) := by
  induction text with
  | nil => rfl
  | cons c text ih =>
    rw [encode, List.flatMap_cons, feed_append, feed_char]
    simp only [Option.bind_some]
    rw [← encode, ih]
    rfl

theorem decode_encode (text : List Char) : decode (encode text) = some text := by
  unfold decode
  rw [feed_encode]
  rfl

theorem encode_injective : Function.Injective encode := by
  intro a b h
  have ha := decode_encode a
  rw [h, decode_encode] at ha
  exact (Option.some.inj ha).symm

theorem encode_char {c : Char} (h : c.toNat < 0x80) :
    String.utf8EncodeChar c = [UInt8.ofNat c.toNat] := by
  unfold String.utf8EncodeChar
  exact if_pos (Nat.le_of_lt_succ h)

theorem encode_ascii (h : ∀ c ∈ text, c.toNat < 0x80) :
    encode text = text.map fun c => UInt8.ofNat c.toNat := by
  induction text with
  | nil => rfl
  | cons c text ih =>
    rw [encode, List.flatMap_cons, encode_char (h c List.mem_cons_self), ← encode,
      ih fun x hx => h x (List.mem_cons_of_mem _ hx)]
    rfl

/-! ## The lossy decoder -/

/-- What stands for bytes that are no character. -/
def replacement : Char := '\uFFFD'

/-- The text of some bytes, with `U+FFFD` for each sequence that is no character. A byte that cannot
be the next of a character is read again as the first of one. -/
def lossyFrom : Option Partial → List UInt8 → List Char
  | none, [] => []
  | some _, [] => [replacement]
  | none, b :: rest =>
    match first b with
    | some (c, s) => c.toList ++ lossyFrom s rest
    | none => replacement :: lossyFrom none rest
  | some p, b :: rest =>
    match next p b with
    | some (c, s) => c.toList ++ lossyFrom s rest
    | none =>
      match first b with
      | some (c, s) => replacement :: (c.toList ++ lossyFrom s rest)
      | none => replacement :: replacement :: lossyFrom none rest

def lossy (bytes : List UInt8) : List Char := lossyFrom none bytes

/-- Bytes that the strict decoder reads are read the same. -/
theorem lossyFrom_of_feed {bytes : List UInt8} (h : feed s bytes = some (text, none)) :
    lossyFrom s bytes = text := by
  induction bytes generalizing s text with
  | nil =>
    obtain ⟨rfl, rfl⟩ := Prod.mk.inj (Option.some.inj h)
    rfl
  | cons b rest ih =>
    rw [feed, Option.bind_eq_bind, Option.bind_eq_some_iff] at h
    obtain ⟨⟨c, s'⟩, hstep, h⟩ := h
    rw [Option.bind_eq_bind, Option.bind_eq_some_iff] at h
    obtain ⟨⟨more, s''⟩, hfeed, h⟩ := h
    obtain ⟨rfl, rfl⟩ := Prod.mk.inj (Option.some.inj h)
    cases s with
    | none =>
      change first b = _ at hstep
      rw [lossyFrom, hstep]
      exact congrArg (c.toList ++ ·) (ih hfeed)
    | some p =>
      change next p b = _ at hstep
      rw [lossyFrom, hstep]
      exact congrArg (c.toList ++ ·) (ih hfeed)

theorem lossy_encode (text : List Char) : lossy (encode text) = text :=
  lossyFrom_of_feed (feed_encode text)

/-- **An open character is none of ASCII's**, and no surrogate: every byte that may come next leaves
it between these bounds. -/
structure Partial.Sound (p : Partial) : Prop where
  low : 0x80 ≤ p.low
  high : p.high ≤ 0xBF
  least : 0x80 ≤ (p.code * 64 + (p.low - 0x80)) * 64 ^ p.more
  valid : (p.code * 64 + (p.high - 0x80) + 1) * 64 ^ p.more ≤ 0xD800 ∨
    0xE000 ≤ (p.code * 64 + (p.low - 0x80)) * 64 ^ p.more ∧
      (p.code * 64 + (p.high - 0x80) + 1) * 64 ^ p.more ≤ 0x110000

theorem toNat_ofNat_valid (h : n < 0xD800 ∨ 0xE000 ≤ n ∧ n < 0x110000) :
    (Char.ofNat n).toNat = n := by
  have hvalid : n.isValidChar := by
    unfold Nat.isValidChar
    omega
  rw [Char.ofNat, dif_pos hvalid]
  exact UInt32.toNat_ofNatLT ..

/-- What a byte makes between characters. -/
theorem first_cases {b : UInt8} {c : Option Char} (h : first b = some (c, s)) :
    (∃ x, c = some x ∧ s = none ∧ x.toNat < 0x80 ∧ String.utf8EncodeChar x = [b]) ∨
      ∃ p, c = none ∧ s = some p ∧ p.Sound := by
  unfold first at h
  dsimp only at h
  have hlt := b.toNat_lt
  split at h
  · next hone =>
      obtain ⟨rfl, rfl⟩ := Prod.mk.inj (Option.some.inj h)
      have hnat : (Char.ofNat b.toNat).toNat = b.toNat := toNat_ofNat_valid (by omega)
      refine .inl ⟨_, rfl, rfl, by omega, ?_⟩
      unfold String.utf8EncodeChar
      change (if (Char.ofNat b.toNat).toNat ≤ 0x7F then [UInt8.ofNat (Char.ofNat b.toNat).toNat]
        else _) = _
      rw [hnat, if_pos hone, UInt8.ofNat_toNat]
  · refine .inr ?_
    -- every open form is a range of leads with its bounds for the second byte
    split_ifs at h with h2 hE0 hED h3 hF0 h4 hF4 <;>
      obtain ⟨rfl, rfl⟩ := Prod.mk.inj (Option.some.inj h) <;>
      refine ⟨_, rfl, rfl, ?_⟩ <;>
      constructor <;> dsimp only <;> omega

/-- What a byte makes inside of a character. -/
theorem next_cases {p : Partial} (hp : p.Sound) {b : UInt8} {c : Option Char}
    (h : next p b = some (c, s)) :
    (∃ x, c = some x ∧ 0x80 ≤ x.toNat) ∨ ∃ q, c = none ∧ s = some q ∧ q.Sound := by
  unfold next at h
  dsimp only at h
  split at h
  · next hin =>
      obtain ⟨hlow, hhigh⟩ := hin
      have hbase := hp.low
      have htop := hp.high
      cases hmore : p.more with
      | zero =>
        rw [hmore] at h
        obtain ⟨rfl, -⟩ := Prod.mk.inj (Option.some.inj h)
        have hleast := hp.least
        have hvalid := hp.valid
        simp only [hmore, Nat.pow_zero, Nat.mul_one] at hleast hvalid
        refine .inl ⟨_, rfl, ?_⟩
        rw [toNat_ofNat_valid (by omega)]
        omega
      | succ more =>
        rw [hmore] at h
        obtain ⟨rfl, rfl⟩ := Prod.mk.inj (Option.some.inj h)
        have hleast := hp.least
        have hvalid := hp.valid
        rw [hmore, Nat.pow_succ'] at hleast hvalid
        generalize hcode : p.code * 64 + (b.toNat - 0x80) = code
        have hover : (p.code * 64 + (p.low - 0x80)) * (64 * 64 ^ more) ≤
            (code * 64 + (0x80 - 0x80)) * 64 ^ more := by
          rw [Nat.sub_self, Nat.add_zero, Nat.mul_assoc]
          exact Nat.mul_le_mul_right _ (by omega)
        have hunder : (code * 64 + (0xBF - 0x80) + 1) * 64 ^ more ≤
            (p.code * 64 + (p.high - 0x80) + 1) * (64 * 64 ^ more) := by
          rw [← Nat.mul_assoc]
          exact Nat.mul_le_mul_right _ (by omega)
        exact .inr ⟨_, rfl, rfl, Nat.le_refl _, Nat.le_refl _, by dsimp only; omega,
          by dsimp only; omega⟩
  · cases h

/-- **Only ASCII is read as ASCII.** -/
theorem lossyFrom_ascii (bytes : List UInt8) :
    ((∀ c ∈ lossyFrom none bytes, c.toNat < 0x80) → bytes = encode (lossyFrom none bytes)) ∧
      ∀ p : Partial, p.Sound → ∃ c ∈ lossyFrom (some p) bytes, 0x80 ≤ c.toNat := by
  induction bytes with
  | nil => exact ⟨fun _ => rfl, fun p _ => ⟨replacement, List.mem_singleton_self _, by decide⟩⟩
  | cons b rest ih =>
    obtain ⟨ihText, ihOpen⟩ := ih
    refine ⟨fun h => ?_, fun p hp => ?_⟩
    · rw [lossyFrom] at h ⊢
      cases hfirst : first b with
      | none =>
        rw [hfirst] at h
        exact absurd (h _ List.mem_cons_self) (by decide)
      | some y =>
        obtain ⟨c, s⟩ := y
        rw [hfirst] at h
        dsimp only at h ⊢
        obtain ⟨x, rfl, rfl, -, hx⟩ | ⟨p, rfl, rfl, hp⟩ := first_cases hfirst
        · have hrest := ihText fun c hc => h c (List.mem_append_right _ hc)
          rw [Option.toList_some, encode, List.flatMap_append, List.flatMap_singleton, hx,
            ← encode, ← hrest]
          rfl
        · obtain ⟨c, hc, hlarge⟩ := ihOpen p hp
          exact absurd (h c (List.mem_append_right _ hc)) (by omega)
    · rw [lossyFrom]
      cases hnext : next p b with
      | none =>
        dsimp only
        split
        · exact ⟨replacement, List.mem_cons_self, by decide⟩
        · exact ⟨replacement, List.mem_cons_self, by decide⟩
      | some y =>
        obtain ⟨c, s⟩ := y
        dsimp only
        obtain ⟨x, rfl, hx⟩ | ⟨q, rfl, rfl, hq⟩ := next_cases hp hnext
        · exact ⟨x, List.mem_append_left _ (List.mem_singleton_self x), hx⟩
        · obtain ⟨c, hc, hlarge⟩ := ihOpen q hq
          exact ⟨c, List.mem_append_right _ hc, hlarge⟩

theorem eq_encode_of_lossy {bytes : List UInt8} (h : lossy bytes = text)
    (hascii : ∀ c ∈ text, c.toNat < 0x80) : bytes = encode text := by
  subst h
  exact (lossyFrom_ascii bytes).1 hascii

end Utf8
