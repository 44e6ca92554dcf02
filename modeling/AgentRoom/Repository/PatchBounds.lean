import AgentRoom.Repository.PatchLines

/-!
# The expansion of a patch

`patchExpansionBound`: before a patch is applied, its length and what its binary hunks may expand
to are summed up against a limit. Every sum is checked against 64 bits here, and none fails: a sum
is only made once it is known to stay under the limit.
-/

namespace AgentRoom.Repository

open Except (require demand)

/-! ## Machine integers -/

/-- An `int64` sum or difference. -/
def int64 (n : Int) : Except PatchError Int :=
  if -9223372036854775808 ≤ n ∧ n ≤ 9223372036854775807 then pure n else throw .overflow

/-- The digits of `strconv.ParseInt`, without their sign. -/
def parseDigits (text : List UInt8) : Option Nat :=
  if text = [] then none
  else (text.mapM fun c => if 48 ≤ c.toNat ∧ c.toNat ≤ 57 then some (c.toNat - 48) else none).map
    (FixedDigits.value 10)

/-- `strconv.ParseInt(text, 10, 64)`. -/
def parseInt (text : List UInt8) : Option Int :=
  let signed := match text with
    | 43 :: digits => (parseDigits digits).map Int.ofNat
    | 45 :: digits => (parseDigits digits).map fun n => -Int.ofNat n
    | digits => (parseDigits digits).map Int.ofNat
  signed.filter fun n => -9223372036854775808 ≤ n ∧ n ≤ 9223372036854775807

/-- The loop of `binary.Uvarint`, past `i` bytes of a number: the number and what is after it. -/
def uvarintFrom (i : Nat) : List UInt8 → Option (Nat × List UInt8)
  | [] => none
  | b :: rest =>
    if i = 10 then none
    else if b.toNat < 128 then
      if i = 9 ∧ 1 < b.toNat then none else some (b.toNat * 2 ^ (7 * i), rest)
    else (uvarintFrom (i + 1) rest).map fun (high, after) =>
      ((b.toNat - 128) * 2 ^ (7 * i) + high, after)

/-- `binary.Uvarint`, where it does not fail. -/
def uvarint (bytes : List UInt8) : Option (Nat × List UInt8) := uvarintFrom 0 bytes

/-! ## Lines -/

/-- A text cut at its line ends; what is after the last of them is a line if it is not empty. -/
def rawLines : List UInt8 → List (List UInt8)
  | [] => []
  | c :: rest =>
    if c = 10 then [] :: rawLines rest
    else match rawLines rest with
      | [] => [[c]]
      | line :: lines => (c :: line) :: lines

def dropCR (line : List UInt8) : List UInt8 :=
  if line.getLast? = some 13 then line.dropLast else line

/-- The line fits the buffer of the scanner. -/
def fitsBuffer (line : List UInt8) : Bool := line.length < 67108864

/-- The lines that the scanner returns: it stops at one that does not fit its buffer. -/
def scanLines (patch : List UInt8) : List (List UInt8) :=
  ((rawLines patch).takeWhile fitsBuffer).map dropCR

/-! ## Hunks -/

inductive HunkKind where
  | literal
  | delta
  deriving DecidableEq

/-- `strings.Cut(line, " ")`, of a line that starts a binary hunk: its kind and its length. -/
def hunkHeader (line : List UInt8) : Option (HunkKind × List UInt8) :=
  if 32 ∈ line then
    let kind := line.takeWhile (· ≠ 32)
    let length := (line.dropWhile (· ≠ 32)).drop 1
    if kind = ascii "literal" then some (.literal, length)
    else if kind = ascii "delta" then some (.delta, length)
    else none
  else none

/-- A hunk while its lines are read. -/
structure OpenHunk where
  kind : HunkKind
  expected : Int
  compressed : List UInt8

variable (inflate : List UInt8 → Option (List UInt8)) (limit : Int)

/-- A hunk begins: what it declares is under the limit. -/
def beginHunk (bound : Int) (kind : HunkKind) (length : List UInt8) :
    Except PatchError OpenHunk := do
  let expected ← demand (parseInt length) PatchError.invalid
  require (0 ≤ expected) PatchError.invalid
  let room ← int64 (limit - bound)
  require (expected ≤ room) PatchError.limit
  pure { kind, expected, compressed := [] }

/-- The expansion of a hunk: what it declares, or what a delta makes of it if that is more. -/
def hunkExpansion (bound : Int) (kind : HunkKind) (expected : Int) (decoded : List UInt8) :
    Except PatchError Int :=
  match kind with
  | .literal => pure expected
  | .delta => do
      let (base, rest) ← demand (uvarint decoded) PatchError.limit
      require ((base : Int) ≤ limit) PatchError.limit
      let (target, _) ← demand (uvarint rest) PatchError.limit
      let room ← int64 (limit - bound)
      require ((target : Int) ≤ room) PatchError.limit
      pure (max expected target)

/-- A hunk ends: it is inflated, up to one byte more than it declares, and added to the bound. -/
def endHunk (bound : Int) (hunk : OpenHunk) : Except PatchError Int := do
  let _ ← int64 (hunk.expected + 1)
  let decoded ← demand ((inflate hunk.compressed).filter fun decoded =>
    (decoded.length : Int) = hunk.expected) PatchError.invalid
  let expansion ← hunkExpansion limit bound hunk.kind hunk.expected decoded
  let room ← int64 (limit - bound)
  require (expansion ≤ room) PatchError.limit
  int64 (bound + expansion)

/-- The two loops over the lines: outside of a hunk, and inside of one. -/
def scanPatch (bound : Int) : Option OpenHunk → List (List UInt8) → Except PatchError Int
  | none, [] => pure bound
  | some hunk, [] => endHunk inflate limit bound hunk
  | none, line :: rest =>
    match hunkHeader line with
    | none => scanPatch bound none rest
    | some (kind, length) => do
        let hunk ← beginHunk limit bound kind length
        scanPatch bound (some hunk) rest
  | some hunk, line :: rest =>
    if line = [] then do
      let bound ← endHunk inflate limit bound hunk
      scanPatch bound none rest
    else do
      let decoded ← decodePatchLine line
      scanPatch bound (some { hunk with compressed := hunk.compressed ++ decoded }) rest

/-- **`patchExpansionBound`.** -/
def patchExpansionBound (patch : List UInt8) : Except PatchError Int := do
  require ((patch.length : Int) ≤ limit) PatchError.limit
  let bound ← scanPatch inflate limit patch.length none (scanLines patch)
  require ((rawLines patch).all fitsBuffer = true) PatchError.invalid
  pure bound

/-! ## The hunks of a patch -/

/-- A binary hunk: its header, and its lines up to an empty one. -/
structure BinaryHunk where
  kind : HunkKind
  length : List UInt8
  lines : List (List UInt8)

/-- **The binary hunks of a patch**: every line that starts one does. -/
def binaryHunks : List (List UInt8) → List BinaryHunk
  | [] => []
  | line :: rest =>
    match hunkHeader line with
    | none => binaryHunks rest
    | some (kind, length) => ⟨kind, length, rest.takeWhile (· ≠ [])⟩ :: binaryHunks rest

/-- What a hunk of some content expands to. -/
inductive Expands (content : List UInt8) : HunkKind → Int → Prop
  | literal : Expands content .literal content.length
  | delta {base target : Nat} {rest after : List UInt8}
      (hbase : uvarint content = some (base, rest))
      (htarget : uvarint rest = some (target, after)) :
      Expands content .delta (max (content.length : Int) target)

/-- **A hunk that was accepted**: it inflates to what it declares, and expands to `expansion`. -/
structure Accepted (hunk : BinaryHunk) (expansion : Int) : Prop where
  inflates : ∃ blocks content, hunk.lines.mapM decodePatchLine = .ok blocks ∧
    inflate blocks.flatten = some content ∧ parseInt hunk.length = some (content.length : Int) ∧
    Expands content hunk.kind expansion

variable {inflate} {limit} {bound b : Int} {line : List UInt8} {lines : List (List UInt8)}

theorem int64_ok {n m : Int} (h : int64 n = .ok m) : m = n := by
  unfold int64 at h
  split at h
  · exact (Except.ok.inj h).symm
  · cases h

theorem int64_fits {n : Int} (hlow : -9223372036854775808 ≤ n) (hhigh : n ≤ 9223372036854775807) :
    int64 n = .ok n := if_pos ⟨hlow, hhigh⟩

variable {kind : HunkKind} {hunk : OpenHunk}

theorem beginHunk_ok {length : List UInt8} (h : beginHunk limit bound kind length = .ok hunk) :
    parseInt length = some hunk.expected ∧ 0 ≤ hunk.expected ∧ hunk.expected ≤ limit - bound ∧
      hunk.kind = kind ∧ hunk.compressed = [] := by
  unfold beginHunk at h
  obtain ⟨expected, hparse, h⟩ := Except.of_demand h
  obtain ⟨hpos, h⟩ := Except.of_require h
  obtain ⟨room, hroom, h⟩ := Except.of_bind h
  obtain rfl := int64_ok hroom
  obtain ⟨hle, h⟩ := Except.of_require h
  obtain rfl := Except.ok.inj h
  exact ⟨hparse, hpos, hle, rfl, rfl⟩

theorem hunkExpansion_ok {content : List UInt8} {expansion : Int}
    (h : hunkExpansion limit bound kind content.length content = .ok expansion) :
    Expands content kind expansion := by
  cases kind with
  | literal =>
    obtain rfl := Except.ok.inj h
    exact .literal
  | delta =>
    obtain ⟨⟨base, rest⟩, hbase, h⟩ := Except.of_demand h
    obtain ⟨-, h⟩ := Except.of_require h
    obtain ⟨⟨target, after⟩, htarget, h⟩ := Except.of_demand h
    obtain ⟨room, -, h⟩ := Except.of_bind h
    obtain ⟨-, h⟩ := Except.of_require h
    obtain rfl := Except.ok.inj h
    exact .delta hbase htarget

theorem endHunk_ok (h : endHunk inflate limit bound hunk = .ok b) :
    ∃ content expansion, inflate hunk.compressed = some content ∧
      hunk.expected = content.length ∧ Expands content hunk.kind expansion ∧
      b = bound + expansion ∧ b ≤ limit := by
  unfold endHunk at h
  obtain ⟨_, -, h⟩ := Except.of_bind h
  obtain ⟨content, hcontent, h⟩ := Except.of_demand h
  obtain ⟨hinflate, hlength⟩ := Option.filter_eq_some_iff.mp hcontent
  have hexpected : hunk.expected = content.length := (of_decide_eq_true hlength).symm
  obtain ⟨expansion, hexpansion, h⟩ := Except.of_bind h
  rw [hexpected] at hexpansion
  obtain ⟨room, hroom, h⟩ := Except.of_bind h
  obtain rfl := int64_ok hroom
  obtain ⟨hle, h⟩ := Except.of_require h
  obtain rfl := int64_ok h
  exact ⟨content, expansion, hinflate, hexpected, hunkExpansion_ok hexpansion, rfl, by omega⟩

theorem hunkHeader_of_decoded {decoded : List UInt8} (h : decodePatchLine line = .ok decoded) :
    hunkHeader line = none :=
  if_neg (not_space_of_decoded h)

/-- **What the two loops sum up.** -/
theorem scanPatch_ok (lines : List (List UInt8)) :
    (∀ bound b, bound ≤ limit → scanPatch inflate limit bound none lines = .ok b →
      ∃ expansions, List.Forall₂ (Accepted inflate) (binaryHunks lines) expansions ∧
        b = bound + expansions.sum ∧ b ≤ limit) ∧
    (∀ bound b hunk, scanPatch inflate limit bound (some hunk) lines = .ok b →
      ∃ blocks content expansion expansions,
        (lines.takeWhile (· ≠ [])).mapM decodePatchLine = .ok blocks ∧
        inflate (hunk.compressed ++ blocks.flatten) = some content ∧
        hunk.expected = content.length ∧ Expands content hunk.kind expansion ∧
        List.Forall₂ (Accepted inflate) (binaryHunks lines) expansions ∧
        b = bound + expansion + expansions.sum ∧ b ≤ limit) := by
  induction lines with
  | nil =>
    -- the scan ends outside a hunk, or inside one that it closes
    refine ⟨fun bound b hle h => ?_, fun bound b hunk h => ?_⟩
    · obtain rfl := Except.ok.inj h
      exact ⟨[], .nil, by simp, hle⟩
    · obtain ⟨content, expansion, hinflate, hexpected, hexpands, rfl, hle⟩ := endHunk_ok h
      exact ⟨[], content, expansion, [], rfl, by simpa using hinflate, hexpected, hexpands, .nil,
        by simp, hle⟩
  | cons line rest ih =>
    obtain ⟨ihText, ihHunk⟩ := ih
    refine ⟨fun bound b hle h => ?_, fun bound b hunk h => ?_⟩
    · unfold scanPatch at h
      unfold binaryHunks
      cases hheader : hunkHeader line with
      | none =>
        rw [hheader] at h
        exact ihText bound b hle h
      | some header =>
        obtain ⟨kind, length⟩ := header
        rw [hheader] at h
        dsimp only at h ⊢
        -- a header opens a hunk
        obtain ⟨hunk, hbegin, h⟩ := Except.of_bind h
        obtain ⟨hparse, -, -, hkind, hempty⟩ := beginHunk_ok hbegin
        obtain ⟨blocks, content, expansion, expansions, hblocks, hinflate, hexpected, hexpands,
          hrest, rfl, hle⟩ := ihHunk bound b hunk h
        rw [hempty, List.nil_append] at hinflate
        rw [hkind] at hexpands
        refine ⟨expansion :: expansions, .cons ⟨blocks, content, hblocks, hinflate, ?_,
          hexpands⟩ hrest, ?_, hle⟩
        · rw [hparse, hexpected]
        · rw [List.sum_cons]
          omega
    · unfold scanPatch at h
      -- an empty line closes it, any other is decoded into it
      by_cases hline : line = []
      · subst hline
        rw [if_pos rfl] at h
        obtain ⟨middle, hend, h⟩ := Except.of_bind h
        obtain ⟨content, expansion, hinflate, hexpected, hexpands, rfl, hle⟩ := endHunk_ok hend
        obtain ⟨expansions, hrest, rfl, hle'⟩ := ihText _ b hle h
        exact ⟨[], content, expansion, expansions, rfl, by simpa using hinflate, hexpected,
          hexpands, hrest, rfl, hle'⟩
      · rw [if_neg hline] at h
        obtain ⟨decoded, hdecoded, h⟩ := Except.of_bind h
        obtain ⟨blocks, content, expansion, expansions, hblocks, hinflate, hexpected, hexpands,
          hrest, rfl, hle⟩ := ihHunk bound b _ h
        refine ⟨decoded :: blocks, content, expansion, expansions, ?_, ?_, hexpected, hexpands,
          ?_, rfl, hle⟩
        · rw [List.takeWhile_cons_of_pos (by simpa using hline), List.mapM_cons, hdecoded]
          exact (Except.bind_of_ok hblocks).trans rfl
        · rw [List.flatten_cons, ← List.append_assoc]
          exact hinflate
        · unfold binaryHunks
          rw [hunkHeader_of_decoded hdecoded]
          exact hrest

theorem Expands.nonneg {content : List UInt8} {expansion : Int}
    (h : Expands content kind expansion) :
    0 ≤ expansion := by
  cases h <;> omega

/-- A bound that every sum of the loops stays under. -/
structure Within (limit bound : Int) : Prop where
  pos : 1 ≤ bound
  le : bound ≤ limit
  fits : limit ≤ 9223372036854775807

/-- A hunk that was begun under the limit. -/
structure OpenHunk.Within (limit bound : Int) (hunk : OpenHunk) : Prop where
  nonneg : 0 ≤ hunk.expected
  le : hunk.expected ≤ limit - bound

theorem Within.room (h : Within limit bound) : int64 (limit - bound) = .ok (limit - bound) := by
  have := h.pos
  have := h.le
  have := h.fits
  exact int64_fits (by omega) (by omega)

/-- The call does not fail with an overflow. -/
abbrev NoOverflow {α : Type} (x : Except PatchError α) : Prop :=
  Except.FailsWith (· ≠ PatchError.overflow) x

theorem Within.room_noOverflow (h : Within limit bound) : NoOverflow (int64 (limit - bound)) :=
  .of_ok h.room

theorem beginHunk_noOverflow (hin : Within limit bound) (kind : HunkKind) (length : List UInt8) :
    NoOverflow (beginHunk limit bound kind length) := by
  unfold beginHunk
  refine .bind (.demand (by decide)) fun expected _ => .bind (.require (by decide)) fun _ _ => ?_
  refine .bind hin.room_noOverflow fun room _ => .bind (.require (by decide)) fun _ _ => ?_
  exact .of_ok rfl

theorem hunkExpansion_noOverflow (hin : Within limit bound) (kind : HunkKind) (expected : Int)
    (decoded : List UInt8) : NoOverflow (hunkExpansion limit bound kind expected decoded) := by
  cases kind with
  | literal => exact .of_ok rfl
  | delta =>
    refine .bind (.demand (by decide)) fun base _ => .bind (.require (by decide)) fun _ _ => ?_
    refine .bind (.demand (by decide)) fun target _ => ?_
    refine .bind hin.room_noOverflow fun room _ => .bind (.require (by decide)) fun _ _ => ?_
    exact .of_ok rfl

/-- **A hunk that was begun under the limit ends under it**, or the patch is refused. -/
theorem endHunk_noOverflow (hin : Within limit bound) (hhunk : hunk.Within limit bound) :
    NoOverflow (endHunk inflate limit bound hunk) := by
  have hpos := hin.pos
  have hle := hin.le
  have hfits := hin.fits
  have hexpected := hhunk.nonneg
  have hroom := hhunk.le
  unfold endHunk
  refine .bind (.of_ok (int64_fits (by omega) (by omega))) fun _ _ => ?_
  refine .bind (.demand (by decide)) fun content hcontent => ?_
  obtain ⟨-, hlength⟩ := Option.filter_eq_some_iff.mp (Except.demand_eq_ok.mp hcontent)
  rw [← of_decide_eq_true hlength]
  refine .bind (hunkExpansion_noOverflow hin _ _ _) fun expansion hexpansion => ?_
  have hnonneg := (hunkExpansion_ok hexpansion).nonneg
  refine .bind hin.room_noOverflow fun room hroom => .bind (.require (by decide)) fun _ hunder => ?_
  have hunder := Except.require_eq_ok.mp hunder
  have hroom := int64_ok hroom
  exact .of_ok (int64_fits (by omega) (by omega))

theorem decodePatchLine_noOverflow (line : List UInt8) : NoOverflow (decodePatchLine line) := by
  have hgroups : ∀ chars, NoOverflow (decodeGroups chars) := by
    intro chars
    fun_induction decodeGroups chars with
    | case1 a b c d e rest ih =>
      refine .bind (.bind (.mapM (fun char => .demand (by decide)) _) fun digits _ => ?_)
        fun group _ => .bind ih fun groups _ => .of_ok rfl
      exact .bind (.require (by decide)) fun _ _ => .of_ok rfl
    | case2 => exact .of_ok rfl
  cases line with
  | nil => exact .throw (by decide)
  | cons letter chars =>
    refine .bind (.require (by decide)) fun _ _ => .bind (.demand (by decide)) fun count _ => ?_
    exact .bind (.require (by decide)) fun _ _ => .bind (hgroups chars) fun _ _ => .of_ok rfl

theorem Within.end (hin : Within limit bound) (h : endHunk inflate limit bound hunk = .ok b) :
    Within limit b := by
  obtain ⟨content, expansion, -, -, hexpands, hb, hle⟩ := endHunk_ok h
  have hnonneg := hexpands.nonneg
  have hpos := hin.pos
  exact ⟨by omega, hle, hin.fits⟩

theorem scanPatch_noOverflow (lines : List (List UInt8)) :
    (∀ bound, Within limit bound → NoOverflow (scanPatch inflate limit bound none lines)) ∧
    (∀ bound hunk, Within limit bound → hunk.Within limit bound →
      NoOverflow (scanPatch inflate limit bound (some hunk) lines)) := by
  induction lines with
  | nil => exact ⟨fun bound _ => .of_ok rfl, fun bound hunk => endHunk_noOverflow⟩
  | cons line rest ih =>
    obtain ⟨ihText, ihHunk⟩ := ih
    refine ⟨fun bound hin => ?_, fun bound hunk hin hhunk => ?_⟩
    · unfold scanPatch
      split
      · exact ihText bound hin
      · refine .bind (beginHunk_noOverflow hin _ _) fun hunk hbegin => ?_
        obtain ⟨-, hnonneg, hle, -, -⟩ := beginHunk_ok hbegin
        exact ihHunk bound hunk hin ⟨hnonneg, hle⟩
    · unfold scanPatch
      split
      · exact .bind (endHunk_noOverflow hin hhunk) fun b hend => ihText b (hin.end hend)
      · refine .bind (decodePatchLine_noOverflow line) fun decoded _ => ?_
        exact ihHunk bound _ hin ⟨hhunk.nonneg, hhunk.le⟩

variable (inflate) {patch : List UInt8}

/-- **No sum overflows**, whatever the patch is. -/
theorem patchExpansionBound_noOverflow (hfits : limit ≤ 9223372036854775807)
    (patch : List UInt8) : NoOverflow (patchExpansionBound inflate limit patch) := by
  refine .bind (.require (by decide)) fun _ hle => .bind ?_ fun bound _ =>
    .bind (.require (by decide)) fun _ _ => .of_ok rfl
  cases patch with
  | nil => exact .of_ok rfl
  | cons c rest =>
    refine (scanPatch_noOverflow _).1 _ ⟨?_, Except.require_eq_ok.mp hle, hfits⟩
    rw [List.length_cons]
    omega

variable {inflate}

/-- **The bound of a patch**: its length and what each of its binary hunks expands to, under the
limit. -/
theorem patchExpansionBound_ok (h : patchExpansionBound inflate limit patch = .ok b) :
    ∃ expansions, List.Forall₂ (Accepted inflate) (binaryHunks (scanLines patch)) expansions ∧
      b = patch.length + expansions.sum ∧ b ≤ limit := by
  unfold patchExpansionBound at h
  obtain ⟨hle, h⟩ := Except.of_require h
  obtain ⟨bound, hscan, h⟩ := Except.of_bind h
  obtain ⟨-, h⟩ := Except.of_require h
  obtain rfl := Except.ok.inj h
  exact (scanPatch_ok _).1 _ _ hle hscan

/-- A literal hunk of one byte, in a patch of eighteen. -/
example : patchExpansionBound some 100 (ascii "literal 1\nA00000\n\n") = .ok 19 := by decide +kernel

/-- A delta hunk whose target is past what is left of the limit. -/
example : patchExpansionBound some 100 (ascii "delta 2\nB0b>9F\n\n") = .error .limit := by
  decide

end AgentRoom.Repository
