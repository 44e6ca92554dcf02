import AgentRoom.Lib.Checks
import AgentRoom.Lib.FixedDigits
import AgentRoom.Lib.Utf8Stream
import AgentRoom.Repository.Snapshot

/-!
# Commit bundles

A commit bundle is a Git bundle with a header of four lines. The Bridge normalises what Git wrote:
it checks the header and writes its own, whose comment says nothing of the history. The server
inspects what arrives. Each has a parser of its own; the hash functions are the same two.
-/

namespace AgentRoom.Repository

open Except (require demand)

/-- The bytes of a text. -/
def bytesOf (text : String) : List UInt8 := Utf8.encode text.toList

/-- The index of the first two line ends in a row. -/
def blankAt : List UInt8 → Option Nat
  | a :: b :: rest => if a = 10 ∧ b = 10 then some 0 else (blankAt (b :: rest)).map (· + 1)
  | _ => none

/-- The width of a hash in bytes. -/
def ObjectFormat.width : ObjectFormat → Nat
  | .sha1 => 20
  | .sha256 => 32

/-- Four bytes as a number, the highest first. -/
def uint32 (bytes : List UInt8) : Nat := FixedDigits.value 256 (bytes.map UInt8.toNat)

variable (hash : ObjectFormat → List UInt8 → List UInt8)

/-! ## The Bridge: `commit_bundle.go` -/

namespace Bridge

/-- A byte of `^(?:[0-9a-f]{40}|[0-9a-f]{64})$`. -/
def hexByte (b : UInt8) : Bool := (48 ≤ b.toNat && b.toNat ≤ 57) || (97 ≤ b.toNat && b.toNat ≤ 102)

def validObject (id format : List UInt8) : Bool :=
  id.all hexByte && (id.length = 40 || id.length = 64) &&
    ((format = bytesOf "sha1" && id.length = 40) || (format = bytesOf "sha256" && id.length = 64))

def commitBundleHeader (format prerequisite candidate : List UInt8) : List UInt8 :=
  bytesOf "# v3 git bundle\n@object-format=" ++ format ++ bytesOf "\n-" ++ prerequisite ++
    bytesOf " ConveneWire prepared base\n" ++ candidate ++ bytesOf " refs/heads/codex/capture\n\n"

def validCommitBundlePack (pack format : List UInt8) : Bool :=
  let kind := if format = bytesOf "sha256" then some ObjectFormat.sha256
    else if format = bytesOf "sha1" then some ObjectFormat.sha1 else none
  match kind with
  | none => false
  | some kind =>
    if pack.length ≤ 12 + kind.width ∨ pack.take 4 ≠ bytesOf "PACK" ∨
        uint32 ((pack.drop 4).take 4) ≠ 2 ∨ uint32 ((pack.drop 8).take 4) = 0 then false
    else hash kind (pack.take (pack.length - kind.width)) = pack.drop (pack.length - kind.width)

/-- **`normalizeCommitBundle`.** -/
def normalizeCommitBundle (raw format prerequisite candidate : List UInt8) :
    Except RepositoryError (List UInt8) := do
  let stop ← demand (blankAt raw) RepositoryError.changed
  require (stop ≤ 65536 ∧ validObject prerequisite format = true ∧
    validObject candidate format = true ∧ prerequisite ≠ candidate) RepositoryError.changed
  match (raw.take stop).splitOn 10 with
  | [version, capability, base, reference] => do
      require (version = bytesOf "# v3 git bundle" ∧
        capability = bytesOf "@object-format=" ++ format ∧
        (bytesOf "-" ++ prerequisite ++ bytesOf " ").isPrefixOf base = true ∧
        reference = candidate ++ bytesOf " refs/heads/codex/capture") RepositoryError.changed
      let pack := raw.drop (stop + 2)
      require (validCommitBundlePack hash pack format = true) RepositoryError.changed
      let header := commitBundleHeader format prerequisite candidate
      require (header.length + pack.length ≤ 4194304) RepositoryError.limit
      pure (header ++ pack)
  | _ => throw .changed

end Bridge

/-! ## The server: `commit-bundle-envelope.ts` -/

namespace Server

/-- `[0-9a-f]`. -/
def hexChar (c : Char) : Bool := ('0' ≤ c && c ≤ '9') || ('a' ≤ c && c ≤ 'f')

/-- The group of `^before([0-9a-f]{width})after$` in a line. -/
def matchId (before after : String) (width : Nat) (line : List Char) : Option (List Char) :=
  let id := (line.drop before.length).take width
  if line = before.toList ++ id ++ after.toList ∧ id.length = width ∧ id.all hexChar = true then
    some id
  else none

/-- The format of the line of a capability. -/
def formatOf (line : List Char) : Option ObjectFormat :=
  if line = "@object-format=sha1".toList then some .sha1
  else if line = "@object-format=sha256".toList then some .sha256
  else none

structure CommitBundleEnvelope where
  objectFormat : ObjectFormat
  prerequisiteCommit : List Char
  candidateCommit : List Char
  deriving DecidableEq

/-- **`inspectCommitBundleEnvelope`**, `none` where it throws. -/
def inspectCommitBundleEnvelope (bytes : List UInt8) : Option CommitBundleEnvelope := do
  guard (bytes.length ≤ 4194304)
  let stop ← blankAt bytes
  guard (stop ≤ 512)
  match (Utf8.lossy (bytes.take stop)).splitOn '\n' with
  | [version, capability, base, reference] => do
      guard (version = "# v3 git bundle".toList)
      let objectFormat ← formatOf capability
      let width := objectFormat.width * 2
      let prerequisiteCommit ← matchId "-" " ConveneWire prepared base" width base
      let candidateCommit ← matchId "" " refs/heads/codex/capture" width reference
      guard (prerequisiteCommit ≠ candidateCommit)
      let pack := bytes.drop (stop + 2)
      guard (12 + objectFormat.width < pack.length ∧ pack.take 4 = bytesOf "PACK" ∧
        uint32 ((pack.drop 4).take 4) = 2 ∧ uint32 ((pack.drop 8).take 4) ≠ 0 ∧
        hash objectFormat (pack.take (pack.length - objectFormat.width)) =
          pack.drop (pack.length - objectFormat.width))
      some ⟨objectFormat, prerequisiteCommit, candidateCommit⟩
  | _ => none

end Server

/-! ## Line ends -/

theorem blankAt_some {bytes : List UInt8} {stop : Nat} (h : blankAt bytes = some stop) :
    bytes = bytes.take stop ++ 10 :: 10 :: bytes.drop (stop + 2) := by
  induction bytes generalizing stop with
  | nil => cases h
  | cons a rest ih =>
    cases rest with
    | nil => cases h
    | cons b rest =>
      rw [blankAt] at h
      split at h
      · next hpair =>
          obtain ⟨rfl, rfl⟩ := hpair
          obtain rfl := Option.some.inj h
          rfl
      · obtain ⟨stop, hstop, rfl⟩ := Option.map_eq_some_iff.mp h
        rw [List.take_succ_cons, List.cons_append, Nat.add_right_comm, List.drop_succ_cons,
          ← ih hstop]

theorem blankAt_cons {a : UInt8} (h : a ≠ 10) (rest : List UInt8) :
    blankAt (a :: rest) = (blankAt rest).map (· + 1) := by
  cases rest with
  | nil => rfl
  | cons b rest => rw [blankAt, if_neg fun hpair => h hpair.1]

theorem blankAt_line {line : List UInt8} (h : 10 ∉ line) (rest : List UInt8) :
    blankAt (line ++ 10 :: rest) = (blankAt (10 :: rest)).map (· + line.length) := by
  induction line with
  | nil => simp
  | cons a line ih =>
    rw [List.cons_append, blankAt_cons fun ha => h (ha ▸ List.mem_cons_self),
      ih fun hmem => h (List.mem_cons_of_mem _ hmem), Option.map_map]
    rfl

/-- Lines that are not empty are passed, up to the blank line after them. -/
theorem blankAt_lines {lines : List (List UInt8)} (hlines : ∀ line ∈ lines, 10 ∉ line ∧ line ≠ [])
    (hne : lines ≠ []) (rest : List UInt8) :
    blankAt ([10].intercalate lines ++ 10 :: 10 :: rest) =
      some ([10].intercalate lines).length := by
  induction lines with
  | nil => exact absurd rfl hne
  | cons line lines ih =>
    obtain ⟨hline, -⟩ := hlines line List.mem_cons_self
    cases lines with
    | nil =>
      rw [List.intercalate_singleton, blankAt_line hline]
      simp [blankAt]
    | cons next lines =>
      obtain ⟨hnext, hstart⟩ := hlines next (List.mem_cons_of_mem _ List.mem_cons_self)
      have hrest := ih (fun x hx => hlines x (List.mem_cons_of_mem _ hx)) (by simp)
      obtain ⟨x, next, rfl⟩ := List.exists_cons_of_ne_nil hstart
      have hx : ¬((10 : UInt8) = 10 ∧ x = 10) := fun h => hnext (h.2 ▸ List.mem_cons_self)
      rw [List.intercalate_cons_cons_left] at hrest
      rw [List.intercalate_cons_cons, List.intercalate_cons_cons_left, List.append_assoc,
        List.append_assoc, List.singleton_append, blankAt_line hline, List.cons_append, blankAt,
        if_neg hx, ← List.cons_append, hrest]
      simp only [Option.map_some, List.length_append, List.length_cons, List.length_nil]
      congr 1
      omega

/-! ## Texts of the header -/

/-- The name of a format. -/
def ObjectFormat.name : ObjectFormat → String
  | .sha1 => "sha1"
  | .sha256 => "sha256"

/-- The lines of a normalised header. -/
def headerLines (format : ObjectFormat) (prerequisite candidate : List Char) : List (List Char) :=
  ["# v3 git bundle".toList, "@object-format=".toList ++ format.name.toList,
    "-".toList ++ prerequisite ++ " ConveneWire prepared base".toList,
    candidate ++ " refs/heads/codex/capture".toList]

/-- A character of a line, in ASCII. -/
def Plain (c : Char) : Prop := c.toNat < 0x80 ∧ c ≠ '\n'

theorem hexChar_plain {c : Char} (h : Server.hexChar c = true) : Plain c := by
  simp only [Server.hexChar, Bool.or_eq_true, Bool.and_eq_true, decide_eq_true_eq] at h
  have hle : c.toNat ≤ 102 := by
    obtain ⟨-, h⟩ | ⟨-, h⟩ := h
    · exact Nat.le_trans (UInt32.le_iff_toNat_le.mp h) (by decide)
    · exact UInt32.le_iff_toNat_le.mp h
  refine ⟨by omega, ?_⟩
  rintro rfl
  exact absurd h (by decide)

variable {id : List Char}

theorem plain_of_all (h : id.all Server.hexChar = true) : ∀ c ∈ id, Plain c :=
  fun c hc => hexChar_plain (List.all_eq_true.mp h c hc)

theorem plain_literal {text : List Char}
    (h : (text.all fun c => c.toNat < 0x80 && c ≠ '\n') = true) : ∀ c ∈ text, Plain c := by
  intro c hc
  have hplain := List.all_eq_true.mp h c hc
  rw [Bool.and_eq_true, decide_eq_true_eq, decide_eq_true_eq] at hplain
  exact hplain

theorem plain_text {text : List Char}
    (h : (text.all fun c => c.toNat < 0x80 && c ≠ '\n') = true) :
    ∀ c ∈ (String.ofList text).toList, Plain c := by
  rw [String.toList_ofList]
  exact plain_literal h

theorem plain_append {a b : List Char} (ha : ∀ c ∈ a, Plain c) (hb : ∀ c ∈ b, Plain c) :
    ∀ c ∈ a ++ b, Plain c := fun c hc => (List.mem_append.mp hc).elim (ha c) (hb c)

/-- The lines of a header are plain, and none is empty. -/
theorem headerLines_plain {format : ObjectFormat} {prerequisite candidate : List Char}
    (hp : prerequisite.all Server.hexChar = true) (hc : candidate.all Server.hexChar = true) :
    ∀ line ∈ headerLines format prerequisite candidate, (∀ c ∈ line, Plain c) ∧ line ≠ [] := by
  intro line hline
  simp only [headerLines, List.mem_cons, List.not_mem_nil, or_false] at hline
  obtain rfl | rfl | rfl | rfl := hline
  · exact ⟨plain_text (by decide), by simp⟩
  · refine ⟨plain_append (plain_text (by decide)) ?_, ?_⟩
    · cases format
      · exact plain_text (by decide)
      · exact plain_text (by decide)
    · exact fun h => absurd (List.append_eq_nil_iff.mp h).1 (by simp)
  · refine ⟨plain_append (plain_append (plain_text (by decide)) (plain_of_all hp))
      (plain_text (by decide)), ?_⟩
    exact fun h => absurd (List.append_eq_nil_iff.mp h).2 (by simp)
  · refine ⟨plain_append (plain_of_all hc) (plain_text (by decide)), ?_⟩
    exact fun h => absurd (List.append_eq_nil_iff.mp h).2 (by simp)

variable {line : List Char}

theorem encode_plain_mem (h : ∀ c ∈ line, Plain c) :
    (10 : UInt8) ∉ Utf8.encode line := by
  rw [Utf8.encode_ascii fun c hc => (h c hc).1]
  intro hmem
  obtain ⟨c, hc, hten⟩ := List.mem_map.mp hmem
  have hlt := (h c hc).1
  have hnat : c.toNat = 10 := by
    rw [← Utf8.toNat_ofNat (show c.toNat < 256 by omega), hten]
    rfl
  exact (h c hc).2 (Char.toNat_inj.mp hnat)

theorem encode_ne_nil (h : line ≠ []) : Utf8.encode line ≠ [] := by
  intro hnil
  exact h (Utf8.encode_injective (hnil.trans Utf8.encode_nil.symm))

theorem encode_intercalate (lines : List (List Char)) :
    Utf8.encode (['\n'].intercalate lines) = [10].intercalate (lines.map Utf8.encode) := by
  induction lines with
  | nil => rfl
  | cons line lines ih =>
    cases lines with
    | nil => simp
    | cons next lines =>
      rw [List.intercalate_cons_cons, Utf8.encode_append, Utf8.encode_append, ih]
      exact List.intercalate_cons_cons.symm

/-! ## A sealed bundle -/

/-- **What a bundle is sealed with**: two different commits of the format, and a pack whose hash is
right. -/
structure SealedBundle (format : ObjectFormat) (prerequisite candidate : List Char)
    (pack : List UInt8) : Prop where
  base : prerequisite.all Server.hexChar = true ∧ prerequisite.length = format.width * 2
  reference : candidate.all Server.hexChar = true ∧ candidate.length = format.width * 2
  differ : prerequisite ≠ candidate
  pack : 12 + format.width < pack.length ∧ pack.take 4 = bytesOf "PACK" ∧
    uint32 ((pack.drop 4).take 4) = 2 ∧ uint32 ((pack.drop 8).take 4) ≠ 0 ∧
    hash format (pack.take (pack.length - format.width)) = pack.drop (pack.length - format.width)

/-- The normalised header, of texts. -/
def headerOf (format : ObjectFormat) (prerequisite candidate : List Char) : List UInt8 :=
  Bridge.commitBundleHeader (bytesOf format.name) (Utf8.encode prerequisite)
    (Utf8.encode candidate)

/-- The header is its lines and a blank one. -/
theorem headerOf_eq (format : ObjectFormat) (prerequisite candidate : List Char) :
    headerOf format prerequisite candidate =
      [10].intercalate ((headerLines format prerequisite candidate).map Utf8.encode) ++
        [10, 10] := by
  simp only [headerLines, List.map_cons, List.map_nil, List.intercalate_cons_cons,
    List.intercalate_singleton, Utf8.encode_append]
  simp only [headerOf, Bridge.commitBundleHeader, bytesOf]
  have hversion : Utf8.encode "# v3 git bundle\n@object-format=".toList =
      Utf8.encode "# v3 git bundle".toList ++ [10] ++ Utf8.encode "@object-format=".toList := by
    rw [String.toList_ofList, String.toList_ofList, String.toList_ofList]
    rfl
  have hdash : Utf8.encode "\n-".toList = [10] ++ Utf8.encode "-".toList := by
    rw [String.toList_ofList, String.toList_ofList]
    rfl
  have hbase : Utf8.encode " ConveneWire prepared base\n".toList =
      Utf8.encode " ConveneWire prepared base".toList ++ [10] := by
    rw [String.toList_ofList, String.toList_ofList]
    rfl
  have hreference : Utf8.encode " refs/heads/codex/capture\n\n".toList =
      Utf8.encode " refs/heads/codex/capture".toList ++ [10, 10] := by
    rw [String.toList_ofList, String.toList_ofList]
    rfl
  rw [hversion, hdash, hbase, hreference]
  simp only [List.append_assoc]

variable {hash} {format : ObjectFormat} {prerequisite candidate : List Char}
  {bytes pack : List UInt8}

theorem blankAt_header (hp : prerequisite.all Server.hexChar = true)
    (hc : candidate.all Server.hexChar = true) (pack : List UInt8) :
    blankAt (headerOf format prerequisite candidate ++ pack) =
      some ([10].intercalate
        ((headerLines format prerequisite candidate).map Utf8.encode)).length := by
  rw [headerOf_eq, List.append_assoc]
  refine blankAt_lines ?_ (by simp [headerLines]) pack
  intro line hline
  obtain ⟨text, htext, rfl⟩ := List.mem_map.mp hline
  obtain ⟨hplain, hne⟩ := headerLines_plain hp hc text htext
  exact ⟨encode_plain_mem hplain, encode_ne_nil hne⟩

theorem length_headerOf (hp : prerequisite.length = format.width * 2)
    (hc : candidate.length = format.width * 2) (hpHex : prerequisite.all Server.hexChar = true)
    (hcHex : candidate.all Server.hexChar = true) :
    (headerOf format prerequisite candidate).length ≤ 221 := by
  have hp' : (Utf8.encode prerequisite).length = prerequisite.length := by
    rw [Utf8.encode_ascii fun c h => (plain_of_all hpHex c h).1, List.length_map]
  have hc' : (Utf8.encode candidate).length = candidate.length := by
    rw [Utf8.encode_ascii fun c h => (plain_of_all hcHex c h).1, List.length_map]
  have hbytes : ∀ text : List Char, bytesOf (String.ofList text) = Utf8.encode text := by
    intro text
    rw [bytesOf, String.toList_ofList]
  have h1 : (bytesOf "# v3 git bundle\n@object-format=").length = 31 := by
    rw [hbytes]
    rfl
  have h2 : (bytesOf "\n-").length = 2 := by
    rw [hbytes]
    rfl
  have h3 : (bytesOf " ConveneWire prepared base\n").length = 27 := by
    rw [hbytes]
    rfl
  have h4 : (bytesOf " refs/heads/codex/capture\n\n").length = 27 := by
    rw [hbytes]
    rfl
  have h5 : (bytesOf format.name).length ≤ 6 := by
    cases format
    · decide
    · decide
  have hwidth : format.width ≤ 32 := by cases format <;> decide
  simp only [headerOf, Bridge.commitBundleHeader, List.length_append, hp', hc', h1, h2, h3, h4]
  omega

theorem intercalate_ascii {lines : List (List Char)} (h : ∀ line ∈ lines, ∀ c ∈ line, Plain c) :
    ∀ c ∈ ['\n'].intercalate lines, c.toNat < 0x80 := by
  induction lines with
  | nil => exact fun c hc => absurd hc List.not_mem_nil
  | cons line lines ih =>
    have hline := h line List.mem_cons_self
    cases lines with
    | nil =>
      rw [List.intercalate_singleton]
      exact fun c hc => (hline c hc).1
    | cons next lines =>
      rw [List.intercalate_cons_cons]
      intro c hc
      obtain hc | hc := List.mem_append.mp hc
      · obtain hc | hc := List.mem_append.mp hc
        · exact (hline c hc).1
        · exact List.mem_singleton.mp hc ▸ by decide
      · exact ih (fun x hx => h x (List.mem_cons_of_mem _ hx)) c hc

theorem splitOn_headerLines (hp : prerequisite.all Server.hexChar = true)
    (hc : candidate.all Server.hexChar = true) :
    (['\n'].intercalate (headerLines format prerequisite candidate)).splitOn '\n' =
      headerLines format prerequisite candidate := by
  refine List.splitOn_intercalate '\n' (fun line hline hmem => ?_) (by simp [headerLines])
  exact ((headerLines_plain hp hc line hline).1 _ hmem).2 rfl

theorem splitOn_headerBytes (hp : prerequisite.all Server.hexChar = true)
    (hc : candidate.all Server.hexChar = true) :
    ([10].intercalate ((headerLines format prerequisite candidate).map Utf8.encode)).splitOn 10 =
      (headerLines format prerequisite candidate).map Utf8.encode := by
  refine List.splitOn_intercalate 10 (fun line hline => ?_) (by simp [headerLines])
  obtain ⟨text, htext, rfl⟩ := List.mem_map.mp hline
  exact encode_plain_mem (headerLines_plain hp hc text htext).1

theorem take_header (pack : List UInt8) :
    (headerOf format prerequisite candidate ++ pack).take
        ([10].intercalate ((headerLines format prerequisite candidate).map Utf8.encode)).length =
      [10].intercalate ((headerLines format prerequisite candidate).map Utf8.encode) := by
  rw [headerOf_eq, List.append_assoc, List.take_left]

theorem drop_header (pack : List UInt8) :
    (headerOf format prerequisite candidate ++ pack).drop
        (([10].intercalate
          ((headerLines format prerequisite candidate).map Utf8.encode)).length + 2) =
      pack := by
  rw [headerOf_eq]
  exact List.drop_left' (by simp)

/-! ### The server -/

theorem matchId_eq_some {before after : String} {width : Nat} :
    Server.matchId before after width line = some id ↔
      line = before.toList ++ id ++ after.toList ∧ id.length = width ∧
        id.all Server.hexChar = true := by
  unfold Server.matchId
  dsimp only
  constructor
  · intro h
    split at h
    · next hmatch =>
        obtain rfl := Option.some.inj h
        exact hmatch
    · cases h
  · rintro ⟨rfl, hlength, hhex⟩
    have hid : ((before.toList ++ id ++ after.toList).drop before.length).take width = id := by
      rw [List.append_assoc, ← String.length_toList, List.drop_left, ← hlength, List.take_left]
    rw [hid, if_pos ⟨rfl, hlength, hhex⟩]

theorem formatOf_eq_some :
    Server.formatOf line = some format ↔
      line = "@object-format=".toList ++ format.name.toList := by
  have h1 : "@object-format=".toList ++ ObjectFormat.sha1.name.toList =
      "@object-format=sha1".toList := by
    rw [ObjectFormat.name, String.toList_ofList, String.toList_ofList, String.toList_ofList]
    rfl
  have h256 : "@object-format=".toList ++ ObjectFormat.sha256.name.toList =
      "@object-format=sha256".toList := by
    rw [ObjectFormat.name, String.toList_ofList, String.toList_ofList, String.toList_ofList]
    rfl
  have hne : "@object-format=sha256".toList ≠ "@object-format=sha1".toList := by simp
  unfold Server.formatOf
  cases format with
  | sha1 =>
    rw [h1]
    split
    · next h => exact iff_of_true rfl h
    · next h => exact iff_of_false (by split <;> simp) h
  | sha256 =>
    rw [h256]
    split
    · next h => exact iff_of_false (by simp) fun hother => hne (hother.symm.trans h)
    · split
      · next h => exact iff_of_true rfl h
      · next h => exact iff_of_false (by simp) h

theorem of_guard {c : Prop} [Decidable c] {α : Type} {f : Unit → Option α} {a : α}
    (h : (guard c >>= f) = some a) : c ∧ f () = some a := by
  by_cases hc : c
  · rw [guard, if_pos hc] at h
    exact ⟨hc, h⟩
  · rw [guard, if_neg hc] at h
    cases h

theorem guard_bind {c : Prop} [Decidable c] {α : Type} (h : c) (f : Unit → Option α) :
    (guard c >>= f) = f () := by
  rw [guard, if_pos h]
  rfl

/-- **What the server accepts**: a normalised header and a sealed pack, of no more than four
mebibytes. -/
theorem inspect_iff : Server.inspectCommitBundleEnvelope hash bytes =
      some ⟨format, prerequisite, candidate⟩ ↔
    ∃ pack, SealedBundle hash format prerequisite candidate pack ∧
      bytes = headerOf format prerequisite candidate ++ pack ∧ bytes.length ≤ 4194304 := by
  constructor
  · intro h
    unfold Server.inspectCommitBundleEnvelope at h
    obtain ⟨hsize, h⟩ := of_guard h
    obtain ⟨stop, hstop, h⟩ := Option.bind_eq_some_iff.mp h
    obtain ⟨-, h⟩ := of_guard h
    split at h
    · next version capability base reference hlines =>
        obtain ⟨hversion, h⟩ := of_guard h
        obtain ⟨kind, hkind, h⟩ := Option.bind_eq_some_iff.mp h
        obtain ⟨p, hp, h⟩ := Option.bind_eq_some_iff.mp h
        obtain ⟨c, hc, h⟩ := Option.bind_eq_some_iff.mp h
        obtain ⟨hdiffer, h⟩ := of_guard h
        obtain ⟨hpack, h⟩ := of_guard h
        obtain ⟨rfl, rfl, rfl⟩ := Server.CommitBundleEnvelope.mk.inj (Option.some.inj h)
        rw [formatOf_eq_some] at hkind
        rw [matchId_eq_some] at hp hc
        obtain ⟨hbase, hpLength, hpHex⟩ := hp
        obtain ⟨hreference, hcLength, hcHex⟩ := hc
        -- the three lines are plain, so their bytes are these
        have hhead : Utf8.lossy (bytes.take stop) = ['\n'].intercalate (headerLines kind p c) := by
          refine (List.intercalate_splitOn '\n').symm.trans ?_
          rw [hlines, hversion, hkind, hbase, hreference]
          rfl
        have hhead := Utf8.eq_encode_of_lossy hhead (intercalate_ascii fun line hline =>
          (headerLines_plain hpHex hcHex line hline).1)
        refine ⟨bytes.drop (stop + 2), ⟨⟨hpHex, hpLength⟩, ⟨hcHex, hcLength⟩, hdiffer, hpack⟩, ?_,
          hsize⟩
        refine (blankAt_some hstop).trans ?_
        rw [hhead, encode_intercalate, headerOf_eq, List.append_assoc]
        rfl
    · cases h
  · rintro ⟨pack, hsealed, rfl, hsize⟩
    obtain ⟨hpHex, hpLength⟩ := hsealed.base
    obtain ⟨hcHex, hcLength⟩ := hsealed.reference
    have hwidth := length_headerOf hpLength hcLength hpHex hcHex
    -- back: the first blank line is that of the header
    have hlines : (['\n'].intercalate (headerLines format prerequisite candidate)).splitOn '\n' =
        headerLines format prerequisite candidate := splitOn_headerLines hpHex hcHex
    have hstop : blankAt (headerOf format prerequisite candidate ++ pack) =
        some ([10].intercalate
          ((headerLines format prerequisite candidate).map Utf8.encode)).length :=
      blankAt_header hpHex hcHex pack
    rw [headerOf_eq, List.length_append] at hwidth
    unfold Server.inspectCommitBundleEnvelope
    refine (guard_bind hsize _).trans (Option.bind_eq_some_iff.mpr ⟨_, hstop, ?_⟩)
    refine (guard_bind (by omega) _).trans ?_
    rw [take_header, drop_header, ← encode_intercalate, Utf8.lossy_encode, hlines]
    refine (guard_bind rfl _).trans ?_
    refine Option.bind_eq_some_iff.mpr ⟨format, formatOf_eq_some.mpr rfl, ?_⟩
    refine Option.bind_eq_some_iff.mpr ⟨_, matchId_eq_some.mpr ⟨rfl, hpLength, hpHex⟩, ?_⟩
    refine Option.bind_eq_some_iff.mpr ⟨_, matchId_eq_some.mpr ⟨rfl, hcLength, hcHex⟩, ?_⟩
    exact (guard_bind hsealed.differ _).trans (guard_bind hsealed.pack _)

/-- A bundle of one object that a hash of zeros seals. -/
example : Server.inspectCommitBundleEnvelope (fun kind _ => List.replicate kind.width 0)
    (headerOf .sha1 (List.replicate 40 'a') (List.replicate 40 'b') ++
      (bytesOf "PACK" ++ [0, 0, 0, 2, 0, 0, 0, 1, 120] ++ List.replicate 20 0)) =
    some ⟨.sha1, List.replicate 40 'a', List.replicate 40 'b'⟩ := by decide +kernel

/-! ### The Bridge -/

theorem hexChar_iff (c : Char) :
    Server.hexChar c = true ↔ 48 ≤ c.toNat ∧ c.toNat ≤ 57 ∨ 97 ≤ c.toNat ∧ c.toNat ≤ 102 := by
  unfold Server.hexChar
  simp only [Bool.or_eq_true, Bool.and_eq_true, decide_eq_true_eq, Char.le_def,
    UInt32.le_iff_toNat_le]
  rfl

theorem hexByte_iff (b : UInt8) :
    Bridge.hexByte b = true ↔ 48 ≤ b.toNat ∧ b.toNat ≤ 57 ∨ 97 ≤ b.toNat ∧ b.toNat ≤ 102 := by
  unfold Bridge.hexByte
  rw [Bool.or_eq_true, Bool.and_eq_true, Bool.and_eq_true, decide_eq_true_eq, decide_eq_true_eq,
    decide_eq_true_eq, decide_eq_true_eq]

theorem name_injective {a b : ObjectFormat} (h : bytesOf a.name = bytesOf b.name) : a = b := by
  have hname : a.name = b.name := String.toList_inj.mp (Utf8.encode_injective h)
  cases a <;> cases b <;> first | rfl | exact absurd hname (by decide)

theorem length_encode_hex (h : id.all Server.hexChar = true) :
    (Utf8.encode id).length = id.length := by
  rw [Utf8.encode_ascii fun c hc => (plain_of_all h c hc).1, List.length_map]

/-- The bytes of an object's name are a text. -/
theorem hexBytes_text {id : List UInt8} (h : id.all Bridge.hexByte = true) :
    ∃ text, id = Utf8.encode text ∧ text.all Server.hexChar = true := by
  induction id with
  | nil => exact ⟨[], rfl, rfl⟩
  | cons b id ih =>
    rw [List.all_cons, Bool.and_eq_true] at h
    obtain ⟨text, rfl, htext⟩ := ih h.2
    have hb := (hexByte_iff b).mp h.1
    have hnat : (Char.ofNat b.toNat).toNat = b.toNat := Utf8.toNat_ofNat_valid (by omega)
    refine ⟨Char.ofNat b.toNat :: text, ?_, ?_⟩
    · change b :: Utf8.encode text =
        String.utf8EncodeChar (Char.ofNat b.toNat) ++ Utf8.encode text
      rw [Utf8.encode_char (by omega), hnat, UInt8.ofNat_toNat]
      rfl
    · rw [List.all_cons, htext, Bool.and_true, hexChar_iff, hnat]
      exact hb

theorem hexText_bytes (h : id.all Server.hexChar = true) :
    (Utf8.encode id).all Bridge.hexByte = true := by
  rw [Utf8.encode_ascii fun c hc => (plain_of_all h c hc).1, List.all_map]
  refine List.all_eq_true.mpr fun c hc => ?_
  have hhex := (hexChar_iff c).mp (List.all_eq_true.mp h c hc)
  refine (hexByte_iff _).mpr ?_
  rwa [Utf8.toNat_ofNat (show c.toNat < 256 by omega)]

/-- The objects of a format. -/
theorem validObject_iff {id form : List UInt8} :
    Bridge.validObject id form = true ↔ ∃ (format : ObjectFormat) (text : List Char),
      form = bytesOf format.name ∧ id = Utf8.encode text ∧ text.all Server.hexChar = true ∧
        text.length = format.width * 2 := by
  constructor
  · intro h
    simp only [Bridge.validObject, Bool.and_eq_true, Bool.or_eq_true, decide_eq_true_eq] at h
    obtain ⟨⟨hhex, -⟩, h⟩ := h
    obtain ⟨text, rfl, htext⟩ := hexBytes_text hhex
    rw [length_encode_hex htext] at h
    obtain ⟨rfl, hlength⟩ | ⟨rfl, hlength⟩ := h
    · exact ⟨.sha1, text, rfl, rfl, htext, hlength⟩
    · exact ⟨.sha256, text, rfl, rfl, htext, hlength⟩
  · rintro ⟨format, text, rfl, rfl, htext, hlength⟩
    simp only [Bridge.validObject, Bool.and_eq_true, Bool.or_eq_true, decide_eq_true_eq,
      hexText_bytes htext, length_encode_hex htext, hlength, true_and]
    cases format
    · exact ⟨.inl rfl, .inl ⟨rfl, rfl⟩⟩
    · exact ⟨.inr rfl, .inr ⟨rfl, rfl⟩⟩

theorem validCommitBundlePack_iff : Bridge.validCommitBundlePack hash pack (bytesOf format.name) =
      true ↔ 12 + format.width < pack.length ∧ pack.take 4 = bytesOf "PACK" ∧
    uint32 ((pack.drop 4).take 4) = 2 ∧ uint32 ((pack.drop 8).take 4) ≠ 0 ∧
    hash format (pack.take (pack.length - format.width)) =
      pack.drop (pack.length - format.width) := by
  have hkind : (if bytesOf format.name = bytesOf "sha256" then some ObjectFormat.sha256
      else if bytesOf format.name = bytesOf "sha1" then some ObjectFormat.sha1 else none) =
      some format := by
    cases format
    · decide
    · decide
  unfold Bridge.validCommitBundlePack
  dsimp only
  rw [hkind]
  dsimp only
  split
  · next h =>
      refine iff_of_false (by simp) fun hall => ?_
      obtain h | h | h | h := h
      · omega
      · exact h hall.2.1
      · exact h hall.2.2.1
      · exact hall.2.2.2.1 h
  · next h =>
      rw [not_or, not_or, not_or, Nat.not_le, not_not, not_not] at h
      rw [decide_eq_true_eq]
      exact ⟨fun hsame => ⟨h.1, h.2.1, h.2.2.1, h.2.2.2, hsame⟩, fun hall => hall.2.2.2.2⟩

/-- **What the Bridge makes of a bundle that it accepts**: a normalised header and a sealed pack. -/
theorem normalize_ok {raw form p c out : List UInt8}
    (h : Bridge.normalizeCommitBundle hash raw form p c = .ok out) :
    ∃ (format : ObjectFormat) (prerequisite candidate : List Char) (pack : List UInt8),
      form = bytesOf format.name ∧ p = Utf8.encode prerequisite ∧ c = Utf8.encode candidate ∧
        SealedBundle hash format prerequisite candidate pack ∧
        out = headerOf format prerequisite candidate ++ pack ∧ out.length ≤ 4194304 := by
  unfold Bridge.normalizeCommitBundle at h
  obtain ⟨stop, -, h⟩ := Except.of_demand h
  obtain ⟨⟨-, hp, hc, hdiffer⟩, h⟩ := Except.of_require h
  obtain ⟨format, prerequisite, rfl, rfl, hpHex, hpLength⟩ := validObject_iff.mp hp
  obtain ⟨format', candidate, hformat, rfl, hcHex, hcLength⟩ := validObject_iff.mp hc
  obtain rfl := name_injective hformat
  split at h
  · obtain ⟨-, h⟩ := Except.of_require h
    dsimp only at h
    obtain ⟨hpack, h⟩ := Except.of_require h
    obtain ⟨hsize, h⟩ := Except.of_require h
    obtain rfl := Except.ok.inj h
    refine ⟨format, prerequisite, candidate, _, rfl, rfl, rfl, ⟨⟨hpHex, hpLength⟩,
      ⟨hcHex, hcLength⟩, fun hsame => hdiffer (congrArg _ hsame),
      validCommitBundlePack_iff.mp hpack⟩, rfl, ?_⟩
    rw [List.length_append]
    exact hsize
  · cases h

/-- **A normalised bundle is a fixed point.** -/
theorem normalize_header (h : SealedBundle hash format prerequisite candidate pack)
    (hsize : (headerOf format prerequisite candidate ++ pack).length ≤ 4194304) :
    Bridge.normalizeCommitBundle hash (headerOf format prerequisite candidate ++ pack)
        (bytesOf format.name) (Utf8.encode prerequisite) (Utf8.encode candidate) =
      .ok (headerOf format prerequisite candidate ++ pack) := by
  obtain ⟨hpHex, hpLength⟩ := h.base
  obtain ⟨hcHex, hcLength⟩ := h.reference
  have hwidth := length_headerOf hpLength hcLength hpHex hcHex
  rw [headerOf_eq, List.length_append] at hwidth
  unfold Bridge.normalizeCommitBundle
  refine (Except.bind_of_ok (Except.demand_eq_ok.mpr (blankAt_header hpHex hcHex pack))).trans ?_
  refine (Except.require_bind ⟨by omega, validObject_iff.mpr ⟨_, _, rfl, rfl, hpHex, hpLength⟩,
    validObject_iff.mpr ⟨_, _, rfl, rfl, hcHex, hcLength⟩,
    fun hsame => h.differ (Utf8.encode_injective hsame)⟩).trans ?_
  rw [take_header, splitOn_headerBytes hpHex hcHex, drop_header]
  have hbase : (bytesOf "-" ++ Utf8.encode prerequisite ++ bytesOf " ").isPrefixOf
      (Utf8.encode ("-".toList ++ prerequisite ++ " ConveneWire prepared base".toList)) = true := by
    have hcomment : Utf8.encode " ConveneWire prepared base".toList =
        bytesOf " " ++ bytesOf "ConveneWire prepared base" := by
      rw [bytesOf, bytesOf, String.toList_ofList, String.toList_ofList, String.toList_ofList]
      rfl
    rw [Utf8.encode_append, Utf8.encode_append, hcomment, ← List.append_assoc]
    exact List.isPrefixOf_iff_prefix.mpr (List.prefix_append _ _)
  refine (Except.require_bind ⟨rfl, Utf8.encode_append _ _, hbase, Utf8.encode_append _ _⟩).trans ?_
  refine (Except.require_bind (validCommitBundlePack_iff.mpr h.pack)).trans ?_
  refine (Except.require_bind ?_).trans rfl
  rw [← List.length_append]
  exact hsize

/-! ## The law -/

/-- A commit bundle that the server accepts. -/
def acceptedBundle (hash : ObjectFormat → List UInt8 → List UInt8) (bytes : List UInt8)
    (format : ObjectFormat) (prerequisite candidate : List Char) : Prop :=
  Server.inspectCommitBundleEnvelope hash bytes = some ⟨format, prerequisite, candidate⟩

/-- **The two parsers agree.** -/
structure BundleAgreement (hash : ObjectFormat → List UInt8 → List UInt8) : Prop where
  /-- What the server accepts with some prerequisite, candidate and format is exactly what the
  Bridge leaves as it is with them. -/
  fixed : ∀ bytes format prerequisite candidate,
    acceptedBundle hash bytes format prerequisite candidate ↔
      Bridge.normalizeCommitBundle hash bytes (bytesOf format.name) (Utf8.encode prerequisite)
        (Utf8.encode candidate) = .ok bytes
  /-- Nothing else is a fixed point, whatever the Bridge takes for a format and for commits. -/
  only : ∀ bytes form p c, Bridge.normalizeCommitBundle hash bytes form p c = .ok bytes →
    ∃ format prerequisite candidate, form = bytesOf (ObjectFormat.name format) ∧
      p = Utf8.encode prerequisite ∧ c = Utf8.encode candidate ∧
      acceptedBundle hash bytes format prerequisite candidate
  /-- What the Bridge makes of a bundle is accepted by the server, with the same prerequisite,
  candidate and format, and is left as it is. -/
  output : ∀ raw form p c out, Bridge.normalizeCommitBundle hash raw form p c = .ok out →
    Bridge.normalizeCommitBundle hash out form p c = .ok out ∧
      ∃ format prerequisite candidate, form = bytesOf (ObjectFormat.name format) ∧
        p = Utf8.encode prerequisite ∧ c = Utf8.encode candidate ∧
        acceptedBundle hash out format prerequisite candidate

theorem bundle_agreement (hash : ObjectFormat → List UInt8 → List UInt8) :
    BundleAgreement hash := by
  have houtput : ∀ raw form p c out, Bridge.normalizeCommitBundle hash raw form p c = .ok out →
      Bridge.normalizeCommitBundle hash out form p c = .ok out ∧
        ∃ format prerequisite candidate, form = bytesOf (ObjectFormat.name format) ∧
          p = Utf8.encode prerequisite ∧ c = Utf8.encode candidate ∧
          acceptedBundle hash out format prerequisite candidate := by
    intro raw form p c out h
    obtain ⟨format, prerequisite, candidate, pack, rfl, rfl, rfl, hsealed, rfl, hsize⟩ :=
      normalize_ok h
    exact ⟨normalize_header hsealed hsize, format, prerequisite, candidate, rfl, rfl, rfl,
      inspect_iff.mpr ⟨pack, hsealed, rfl, hsize⟩⟩
  refine ⟨fun bytes format prerequisite candidate => ⟨fun h => ?_, fun h => ?_⟩,
    fun bytes form p c h => (houtput _ _ _ _ _ h).2, houtput⟩
  · obtain ⟨pack, hsealed, rfl, hsize⟩ := inspect_iff.mp h
    exact normalize_header hsealed hsize
  · obtain ⟨-, format', prerequisite', candidate', hformat, hp, hc, haccepted⟩ :=
      houtput _ _ _ _ _ h
    obtain rfl := name_injective hformat
    obtain rfl := Utf8.encode_injective hp
    obtain rfl := Utf8.encode_injective hc
    exact haccepted

end AgentRoom.Repository
