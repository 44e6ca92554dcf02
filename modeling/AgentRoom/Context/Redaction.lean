import AgentRoom.Lib.Rewrite
import AgentRoom.Domain.Text

/-!
# Redaction of sensitive text

`redactSensitiveText` runs five global regular expressions in turn and writes
`[REDACTED]` over every match. The patterns need no backtracking: the class
behind each `\s*` and each counted run is disjoint from what follows it, so a
pattern is a fixed head, then maximal runs.

Every match is longer than the mark, so redaction never makes a text longer.
-/

namespace AgentRoom.Context

open Rewrite

/-- `\s`. -/
abbrev isSpace (c : Char) : Bool := isTrimmed c

/-- A character under the `i` and `u` flags: two characters outside ASCII fold into it. -/
def fold (c : Char) : Char :=
  if c.toNat = 0x17F then 's' else if c.toNat = 0x212A then 'k' else c.toLower

/-- A literal head, each character compared by `folded`: what follows it. -/
def afterHead (folded : Char → Char) : List Char → List Char → Option (List Char)
  | [], text => some text
  | _ :: _, [] => none
  | w :: word, c :: text => if folded c = w then afterHead folded word text else none

/-- A literal head under the `i` flag. -/
abbrev afterWord : List Char → List Char → Option (List Char) := afterHead fold

/-- A maximal run of a class, of at least `least` characters: what follows it. -/
def afterRun (least : Nat) (cls : Char → Bool) (text : List Char) : Option (List Char) :=
  if least ≤ (text.takeWhile cls).length then some (text.dropWhile cls) else none

/-- A run of exactly `count` characters of a class. -/
def afterCount (count : Nat) (cls : Char → Bool) (text : List Char) : Option (List Char) :=
  if count ≤ text.length ∧ (text.take count).all cls then some (text.drop count) else none

/-- One character of a class. -/
def afterOne (cls : Char → Bool) : List Char → Option (List Char)
  | [] => none
  | c :: text => if cls c then some text else none

/-- The length of the match that leaves `rest`. -/
def matched (text : List Char) (rest : Option (List Char)) : Option Nat :=
  rest.map fun rest => text.length - rest.length

/-- `[a-z0-9]` under the `i` and `u` flags. -/
def isAlnumFold (c : Char) : Bool :=
  ('a' ≤ fold c && fold c ≤ 'z') || ('0' ≤ c && c ≤ '9')

/-- `/bearer\s+[a-z0-9._~+/=-]{12,}/giu`. -/
def bearerPattern (text : List Char) : Option Nat :=
  matched text do
    let rest ← afterWord "bearer".toList text
    let rest ← afterRun 1 isSpace rest
    afterRun 12 (fun c => isAlnumFold c || c ∈ "._~+/=-".toList) rest

/-- `/sk-[a-z0-9_-]{16,}/giu`. -/
def skPattern (text : List Char) : Option Nat :=
  matched text do
    let rest ← afterWord "sk-".toList text
    afterRun 16 (fun c => isAlnumFold c || c = '_' || c = '-') rest

/-- `/gh[pousr]_[a-z0-9]{20,}/giu`. -/
def ghPattern (text : List Char) : Option Nat :=
  matched text do
    let rest ← afterWord "gh".toList text
    let rest ← afterOne (fun c => fold c ∈ "pousr".toList) rest
    let rest ← afterOne (· = '_') rest
    afterRun 20 isAlnumFold rest

/-- `/AKIA[0-9A-Z]{16}/gu`. -/
def akiaPattern (text : List Char) : Option Nat :=
  matched text do
    let rest ← afterHead id "AKIA".toList text
    afterCount 16 (fun c => ('0' ≤ c && c ≤ '9') || ('A' ≤ c && c ≤ 'Z')) rest

/-- `(password|secret|token)`. -/
def afterCredentialWord (text : List Char) : Option (List Char) :=
  match afterWord "password".toList text with
  | some rest => some rest
  | none =>
    match afterWord "secret".toList text with
    | some rest => some rest
    | none => afterWord "token".toList text

/-- `/(password|secret|token)\s*[=:]\s*[^\s,;]{8,}/giu`. -/
def credentialPattern (text : List Char) : Option Nat :=
  matched text do
    let rest ← afterCredentialWord text
    let rest ← afterRun 0 isSpace rest
    let rest ← afterOne (fun c => c = '=' || c = ':') rest
    let rest ← afterRun 0 isSpace rest
    afterRun 8 (fun c => !(isSpace c || c = ',' || c = ';')) rest

def sensitiveRules : List (List Char → Option Nat) :=
  [bearerPattern, skPattern, ghPattern, akiaPattern, credentialPattern]

def redactedMark : List Char := "[REDACTED]".toList

/-- **`redactSensitiveText`.** -/
def redactSensitiveText (value : String) : String :=
  String.ofList (sensitiveRules.foldl
    (fun redacted rule => replaceAll rule redactedMark redacted) value.toList)

/-! ## Redaction never lengthens a text -/

variable {text rest : List Char}

theorem length_of_afterHead {folded : Char → Char} {word : List Char}
    (h : afterHead folded word text = some rest) : text.length = word.length + rest.length := by
  induction word generalizing text with
  | nil => cases h; simp
  | cons w word ih =>
    cases text with
    | nil => simp [afterHead] at h
    | cons c text =>
      simp only [afterHead] at h
      split at h
      · have := ih h
        simp only [List.length_cons]
        omega
      · cases h

variable {cls : Char → Bool}

theorem length_of_afterRun {least : Nat} (h : afterRun least cls text = some rest) :
    least + rest.length ≤ text.length := by
  unfold afterRun at h
  split at h
  · rename_i hle
    cases h
    have := congrArg List.length (List.takeWhile_append_dropWhile (p := cls) (l := text))
    rw [List.length_append] at this
    omega
  · cases h

theorem length_of_afterCount {count : Nat} (h : afterCount count cls text = some rest) :
    text.length = count + rest.length := by
  unfold afterCount at h
  split at h
  · rename_i hle
    cases h
    rw [List.length_drop]
    omega
  · cases h

theorem length_of_afterOne (h : afterOne cls text = some rest) : text.length = 1 + rest.length := by
  cases text with
  | nil => simp [afterOne] at h
  | cons c text =>
    simp only [afterOne] at h
    split at h
    · cases h; simp; omega
    · cases h

/-- The shortest of the three words has five letters. -/
theorem length_of_afterCredentialWord (h : afterCredentialWord text = some rest) :
    5 + rest.length ≤ text.length := by
  unfold afterCredentialWord at h
  split at h
  · rename_i found hpassword
    cases h
    have hlen := length_of_afterHead hpassword
    have hword : "password".toList.length = 8 := rfl
    omega
  · split at h
    · rename_i found hsecret
      cases h
      have hlen := length_of_afterHead hsecret
      have hword : "secret".toList.length = 6 := rfl
      omega
    · have hlen := length_of_afterHead h
      have hword : "token".toList.length = 5 := rfl
      omega

theorem matched_atLeast {rest : Option (List Char)} {n : Nat} (h : matched text rest = some n)
    (hrest : ∀ r, rest = some r → redactedMark.length + r.length ≤ text.length) :
    redactedMark.length ≤ n ∧ n ≤ text.length := by
  cases hr : rest with
  | none => simp [matched, hr] at h
  | some r =>
    have hlen := hrest r hr
    simp only [matched, hr, Option.map_some, Option.some.injEq] at h
    omega

theorem bearerPattern_atLeast : AtLeast redactedMark bearerPattern := by
  intro text n h
  refine matched_atLeast h fun r hr => ?_
  simp only [Option.bind_eq_bind, Option.bind_eq_some_iff] at hr
  obtain ⟨tail, hhead, afterSpace, hspace, hrun⟩ := hr
  have h1 := length_of_afterHead hhead
  have h2 := length_of_afterRun hspace
  have h3 := length_of_afterRun hrun
  have hmark : redactedMark.length = 10 := rfl
  have hword : "bearer".toList.length = 6 := rfl
  omega

theorem skPattern_atLeast : AtLeast redactedMark skPattern := by
  intro text n h
  refine matched_atLeast h fun r hr => ?_
  simp only [Option.bind_eq_bind, Option.bind_eq_some_iff] at hr
  obtain ⟨tail, hhead, hrun⟩ := hr
  have h1 := length_of_afterHead hhead
  have h2 := length_of_afterRun hrun
  have hmark : redactedMark.length = 10 := rfl
  omega

theorem ghPattern_atLeast : AtLeast redactedMark ghPattern := by
  intro text n h
  refine matched_atLeast h fun r hr => ?_
  simp only [Option.bind_eq_bind, Option.bind_eq_some_iff] at hr
  obtain ⟨tail, hhead, afterKind, hkind, afterBar, hbar, hrun⟩ := hr
  have h1 := length_of_afterHead hhead
  have h2 := length_of_afterOne hkind
  have h3 := length_of_afterOne hbar
  have h4 := length_of_afterRun hrun
  have hmark : redactedMark.length = 10 := rfl
  omega

theorem akiaPattern_atLeast : AtLeast redactedMark akiaPattern := by
  intro text n h
  refine matched_atLeast h fun r hr => ?_
  simp only [Option.bind_eq_bind, Option.bind_eq_some_iff] at hr
  obtain ⟨tail, hhead, hrun⟩ := hr
  have h1 := length_of_afterHead hhead
  have h2 := length_of_afterCount hrun
  have hmark : redactedMark.length = 10 := rfl
  omega

theorem credentialPattern_atLeast : AtLeast redactedMark credentialPattern := by
  intro text n h
  refine matched_atLeast h fun r hr => ?_
  simp only [Option.bind_eq_bind, Option.bind_eq_some_iff] at hr
  obtain ⟨tail, hhead, afterSpace, hspace, afterSign, hsign, afterGap, hgap, hrun⟩ := hr
  have h1 := length_of_afterCredentialWord hhead
  have h2 := length_of_afterRun hspace
  have h3 := length_of_afterOne hsign
  have h4 := length_of_afterRun hgap
  have h5 := length_of_afterRun hrun
  have hmark : redactedMark.length = 10 := rfl
  omega

theorem sensitiveRules_atLeast : ∀ rule ∈ sensitiveRules, AtLeast redactedMark rule := by
  simp only [sensitiveRules, List.forall_mem_cons]
  exact ⟨bearerPattern_atLeast, skPattern_atLeast, ghPattern_atLeast, akiaPattern_atLeast,
    credentialPattern_atLeast, by simp⟩

/-- **Redaction never makes a text longer.** -/
theorem redactSensitiveText_length_le (value : String) :
    (redactSensitiveText value).length ≤ value.length := by
  have hfold : ∀ (rules : List (List Char → Option Nat)) (text : List Char),
      (∀ rule ∈ rules, AtLeast redactedMark rule) →
      (rules.foldl (fun redacted rule => replaceAll rule redactedMark redacted) text).length ≤
        text.length := by
    intro rules
    induction rules with
    | nil => intro text _; simp
    | cons rule rules ih =>
      intro text hrules
      rw [List.forall_mem_cons] at hrules
      exact Nat.le_trans (ih _ hrules.2) (replaceAll_length_le hrules.1 text)
  have h := hfold sensitiveRules value.toList sensitiveRules_atLeast
  rw [String.length_toList] at h
  simpa [redactSensitiveText] using h

end AgentRoom.Context
