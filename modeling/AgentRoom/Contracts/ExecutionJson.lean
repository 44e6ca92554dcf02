import AgentRoom.Lib.JsonText

/-!
# Execution JSON in two languages

The server's bounded canonical encoder and the Bridge's, and the checks each makes
before it encodes. A JavaScript value has doubles and strings of code units. A Go
value comes out of a text: it keeps its numerals, and its strings are sequences of
runes.

Texts are characters here; the bytes they stand for are their UTF-8 encoding.
-/

namespace AgentRoom.Contracts

open JsonText (Numeral Tree)

/-! ## Both sides -/

/-- `maxSafeJSONInteger`. -/
def maxSafeInteger : Nat := 9007199254740991

/-- `Number.isSafeInteger`. -/
def SafeInteger (q : ℚ) : Prop := q.den = 1 ∧ q.num.natAbs ≤ maxSafeInteger

instance (q : ℚ) : Decidable (SafeInteger q) := by unfold SafeInteger; infer_instance

def maximumBytes : Nat := 512 * 1024
def maximumValues : Nat := 30000

def utf8 (text : List Char) : List UInt8 := text.flatMap String.utf8EncodeChar

/-- `Buffer.byteLength(text, "utf8")`. -/
def byteLength (text : List Char) : Nat := (utf8 text).length

def reservedKeys : List (List Char) :=
  ["__proto__".toList, "constructor".toList, "prototype".toList]

/-- `binaryCompare(left, right) <= 0`, on code units. -/
def unitsLe (left right : List UInt16) : Prop := left ≤ right

instance : DecidableRel unitsLe := fun a b => inferInstanceAs (Decidable (a ≤ b))

instance : IsTrans (List UInt16) unitsLe := ⟨fun _ _ _ => List.le_trans⟩

instance : Std.Total unitsLe := ⟨List.le_total⟩

instance : Std.Antisymm unitsLe := ⟨fun _ _ => List.le_antisymm⟩

/-- The parts with commas between them. -/
def join (parts : List (List Char)) : List Char := List.intercalate [','] parts

/-! ## JavaScript -/

/-- **The finite doubles** and their texts: what the language promises of them. -/
structure Doubles where
  Double : Type
  value : Double → ℚ
  /-- The nearest double. -/
  ofRat : ℚ → Double
  /-- `Number::toString`. -/
  text : Double → Numeral
  text_valid : ∀ d, (text d).Valid
  /-- The text of a double reads back as the double. -/
  text_back : ∀ d, value (ofRat (text d).value) = value d
  /-- Safe integers are doubles. -/
  ofRat_integer : ∀ i : Int, i.natAbs ≤ maxSafeInteger → value (ofRat i) = i
  /-- A safe integer is written in decimal. -/
  text_integer : ∀ d (i : Int), i.natAbs ≤ maxSafeInteger → value d = i → text d = Numeral.ofInt i

section JavaScript

variable (D : Doubles)

/-- A JavaScript value that is JSON. -/
abbrev JsValue := JsonValue D.Double (List UInt16)

/-- `entry.isWellFormed()`. -/
def isWellFormed (units : List UInt16) : Bool := (Utf16.decode units).isSome

/-- A JavaScript value: the own keys of an object are distinct. -/
structure JsJson where
  value : JsValue D
  distinct : value.All JsonValue.DistinctKeys

/-- `JSON.parse`: the last member of a key stays. -/
def parseJSON (text : List Char) : Option (JsJson D) :=
  (JsonText.parse text).map fun tree =>
    { value := (tree.map (fun numeral => D.ofRat numeral.value) id).lastWins
      distinct := JsonValue.lastWins_distinct _ }

/-- The bytes of a string in UTF-8: three for an unpaired surrogate. -/
def unitsByteLength : List UInt16 → Nat
  | [] => 0
  | [u] => if u.toNat < 0x80 then 1 else if u.toNat < 0x800 then 2 else 3
  | u :: v :: us =>
    if Utf16.isHigh u && Utf16.isLow v then 4 + unitsByteLength us
    else (if u.toNat < 0x80 then 1 else if u.toNat < 0x800 then 2 else 3) +
      unitsByteLength (v :: us)

/-- `count` and `textSize` of `assertPlainJSON`. -/
structure Tally where
  count : Nat
  textSize : Nat

/-- `++count <= maximumValues && depth <= 24`. -/
def enter (depth : Nat) (t : Tally) : Except String Tally :=
  if t.count + 1 ≤ maximumValues ∧ depth ≤ 24 then .ok { t with count := t.count + 1 }
  else .error "PLAN_RESOURCE_LIMIT"

/-- `visit` of a string. -/
def visitString (units : List UInt16) (depth : Nat) (t : Tally) : Except String Tally := do
  let t ← enter depth t
  if t.textSize + unitsByteLength units ≤ maximumBytes then
    if isWellFormed units then
      .ok { t with textSize := t.textSize + unitsByteLength units }
    else .error "PLAN_INVALID_UNICODE"
  else .error "PLAN_RESOURCE_LIMIT"

/-- `String(index)`, the own key of an array entry. -/
def indexKey (index : Nat) : List UInt16 :=
  Utf16.encode ((Numeral.decimal index).map Nat.digitChar)

def reserved (key : List UInt16) : Bool := reservedKeys.any fun k => Utf16.encode k == key

mutual

/-- `visit` of `assertPlainJSON`. -/
def visit : JsValue D → Nat → Tally → Except String Tally
  | .null, depth, t => enter depth t
  | .bool _, depth, t => enter depth t
  | .number d, depth, t => do
      let t ← enter depth t
      if SafeInteger (D.value d) then .ok t else .error "PLAN_NON_JSON_VALUE"
  | .string units, depth, t => visitString units depth t
  | .array entries, depth, t => do
      let t ← enter depth t
      if entries.length ≤ maximumValues then visitEntries entries 0 (depth + 1) t
      else .error "PLAN_RESOURCE_LIMIT"
  | .object members, depth, t => do
      let t ← enter depth t
      visitMembers members (depth + 1) t

def visitEntries : List (JsValue D) → Nat → Nat → Tally → Except String Tally
  | [], _, _, t => .ok t
  | entry :: entries, index, depth, t => do
      let t ← visitString (indexKey index) depth t
      let t ← visit entry depth t
      visitEntries entries (index + 1) depth t

def visitMembers : List (List UInt16 × JsValue D) → Nat → Tally → Except String Tally
  | [], _, t => .ok t
  | (key, value) :: members, depth, t => do
      if reserved key then .error "PLAN_NON_JSON_VALUE"
      else
        let t ← visitString key depth t
        let t ← visit value depth t
        visitMembers members depth t

end

def assertPlainJSON (v : JsValue D) : Except String Unit := do
  let _ ← visit D v 0 { count := 0, textSize := 0 }
  pure ()

mutual

def canonicalValue : JsValue D → List Char
  | .null => "null".toList
  | .bool true => "true".toList
  | .bool false => "false".toList
  | .number d => (D.text d).text
  | .string units => JsonText.quote units
  | .array entries => '[' :: join (canonicalEntries entries) ++ [']']
  | .object members =>
    '{' :: join (((canonicalMembers members).insertionSort fun a b => unitsLe a.1 b.1).map
      fun (key, text) => JsonText.quote key ++ ':' :: text) ++ ['}']

def canonicalEntries : List (JsValue D) → List (List Char)
  | [] => []
  | entry :: entries => canonicalValue entry :: canonicalEntries entries

def canonicalMembers : List (List UInt16 × JsValue D) → List (List UInt16 × List Char)
  | [] => []
  | (key, value) :: members => (key, canonicalValue value) :: canonicalMembers members

end

/-- **`canonicalExecutionJSON`.** -/
def canonicalExecutionJSON (v : JsValue D) : Except String (List Char) := do
  assertPlainJSON D v
  let encoded := canonicalValue D v
  if byteLength encoded ≤ maximumBytes then .ok encoded else .error "PLAN_RESOURCE_LIMIT"

def executionOperationDigest (sha256 : List UInt8 → String) (v : JsValue D) :
    Except String String :=
  (canonicalExecutionJSON D v).map fun text => sha256 (utf8 text)

end JavaScript

/-! ## Go -/

/-- What `encoding/json` decodes a text to, numerals kept as they are written. -/
abbrev GoValue := JsonValue Numeral (List Char)

/-- `jsonStringsHaveValidUnicodeEscapes`, inside a string or outside one. -/
def validUnicodeEscapes : Bool → List Char → Bool
  | inString, [] => !inString
  | false, c :: cs => validUnicodeEscapes (c = '"') cs
  | true, '"' :: cs => validUnicodeEscapes false cs
  | true, '\\' :: 'u' :: a :: b :: c :: d :: '\\' :: 'u' :: a' :: b' :: c' :: d' :: cs =>
    match JsonText.readHex a b c d with
    | none => false
    | some u =>
      if Utf16.isHigh u then
        match JsonText.readHex a' b' c' d' with
        | none => false
        | some v => Utf16.isLow v && validUnicodeEscapes true cs
      else !Utf16.isLow u &&
        validUnicodeEscapes true ('\\' :: 'u' :: a' :: b' :: c' :: d' :: cs)
  | true, '\\' :: 'u' :: a :: b :: c :: d :: cs =>
    match JsonText.readHex a b c d with
    | none => false
    | some u => !Utf16.isHigh u && !Utf16.isLow u && validUnicodeEscapes true cs
  | true, '\\' :: e :: cs => (JsonText.simpleEscape e).isSome && validUnicodeEscapes true cs
  | true, c :: cs => c ≠ '\\' && !(c.toNat < 0x20 : Bool) && validUnicodeEscapes true cs

/-- A token of `json.Decoder`. -/
inductive Token where
  | openObject | openArray | closeObject | closeArray
  | string (value : List Char)
  | number (lexeme : Numeral)
  | literal

/-- The runes of a decoded string. -/
def goString (units : List UInt16) : List Char := Utf16.decodeLossy units

mutual

def tokens : Tree → List Token
  | .null | .bool _ => [.literal]
  | .number numeral => [.number numeral]
  | .string units => [.string (goString units)]
  | .array entries => .openArray :: tokensEntries entries
  | .object members => .openObject :: tokensMembers members

def tokensEntries : List Tree → List Token
  | [] => [.closeArray]
  | entry :: entries => tokens entry ++ tokensEntries entries

def tokensMembers : List (List UInt16 × Tree) → List Token
  | [] => [.closeObject]
  | (key, value) :: members => .string (goString key) :: tokens value ++ tokensMembers members

end

structure JsonContainerState where
  object : Bool
  expectingKey : Bool
  keys : List (List Char)

/-- The counters of `bridgeJSONWithinResourceBounds`. -/
structure BoundsState where
  containers : List JsonContainerState
  totalNodes : Nat
  numberCount : Nat
  rootValues : Nat

def BoundsState.initial : BoundsState where
  containers := []
  totalNodes := 0
  numberCount := 0
  rootValues := 0

def maxJSONDepth : Nat := 64
def maxJSONTotalNodes : Nat := 8192
def maxJSONNumbers : Nat := 4096
def maxJSONNumberLexemeLength : Nat := 256
def maxJSONNumberExponentMagnitude : Nat := 512

def jsonNumberWithinResourceBounds (n : Numeral) : Bool :=
  n.text.length ≤ maxJSONNumberLexemeLength &&
    match n.exponent with
    | none => true
    | some e => JsonText.digitsValue e.digits ≤ maxJSONNumberExponentMagnitude

/-- The place of a value below its parent: a root, an entry, or a member's value. -/
def placed (s : BoundsState) : BoundsState :=
  match s.containers with
  | [] => { s with rootValues := s.rootValues + 1 }
  | parent :: rest =>
    if parent.object then { s with containers := { parent with expectingKey := true } :: rest }
    else s

/-- What the loop does with the token of a value. -/
def countToken (s : BoundsState) (token : Token) : Option BoundsState :=
  let s := placed s
  let s := { s with totalNodes := s.totalNodes + 1 }
  if s.totalNodes > maxJSONTotalNodes ∨ s.containers.length + 1 > maxJSONDepth then none
  else
    match token with
    | .number lexeme =>
      let s := { s with numberCount := s.numberCount + 1 }
      if s.numberCount > maxJSONNumbers ∨ jsonNumberWithinResourceBounds lexeme = false then none
      else some s
    | .openObject => some { s with containers := ⟨true, true, []⟩ :: s.containers }
    | .openArray => some { s with containers := ⟨false, false, []⟩ :: s.containers }
    | _ => some s

def closeContainer (object : Bool) (s : BoundsState) : Option BoundsState :=
  match s.containers with
  | [] => none
  | current :: rest =>
    if object ≠ current.object ∨ (current.object ∧ ¬ current.expectingKey) then none
    else some { s with containers := rest }

def boundsStep (s : BoundsState) (token : Token) : Option BoundsState :=
  match token with
  | .closeObject => closeContainer true s
  | .closeArray => closeContainer false s
  | token =>
    match s.containers with
    | parent :: rest =>
      if parent.object ∧ parent.expectingKey then
        match token with
        | .string key =>
          if key ∈ parent.keys then none
          else
            some { s with containers :=
              { parent with keys := key :: parent.keys, expectingKey := false } :: rest }
        | _ => none
      else countToken s token
    | [] => countToken s token

def bridgeJSONWithinResourceBounds (text : List Char) : Bool :=
  match JsonText.parse text with
  | none => false
  | some tree =>
    match (tokens tree).foldlM boundsStep .initial with
    | none => false
    | some s => s.rootValues = 1 && s.containers.isEmpty

/-- What `decodeSingleJSONValue` makes of a tree: a map for an object, so the last member of a
key stays. -/
def decoded (tree : Tree) : GoValue := (tree.map id goString).lastWins

/-- `executionValueWithinBounds` of a string: a key, or an index. -/
def stringWithinBounds (depth count : Nat) : Option Nat :=
  if depth > 24 ∨ count + 1 > 30000 then none else some (count + 1)

mutual

/-- `executionValueWithinBounds`: the new count, unless a bound is passed. -/
def executionValueWithinBounds : GoValue → Nat → Nat → Option Nat
  | .array entries, depth, count => do
      let count ← stringWithinBounds depth count
      entriesWithinBounds entries (depth + 1) count
  | .object members, depth, count => do
      let count ← stringWithinBounds depth count
      membersWithinBounds members (depth + 1) count
  | _, depth, count => stringWithinBounds depth count

def entriesWithinBounds : List GoValue → Nat → Nat → Option Nat
  | [], _, count => some count
  | entry :: entries, depth, count => do
      let count ← stringWithinBounds depth count
      let count ← executionValueWithinBounds entry depth count
      entriesWithinBounds entries depth count

def membersWithinBounds : List (List Char × GoValue) → Nat → Nat → Option Nat
  | [], _, count => some count
  | (_, value) :: members, depth, count => do
      let count ← stringWithinBounds depth count
      let count ← executionValueWithinBounds value depth count
      membersWithinBounds members depth count

end

/-- A rune of `appendExecutionString`. -/
def appendRune (r : Char) : List Char :=
  if r = '"' ∨ r = '\\' then ['\\', r]
  else if r = '\x08' then ['\\', 'b']
  else if r = '\x0c' then ['\\', 'f']
  else if r = '\n' then ['\\', 'n']
  else if r = '\r' then ['\\', 'r']
  else if r = '\t' then ['\\', 't']
  else if r.toNat < 0x20 then
    ['\\', 'u', '0', '0', JsonText.hexChar (r.toNat / 16), JsonText.hexChar (r.toNat % 16)]
  else [r]

def appendExecutionString (value : List Char) : List Char :=
  '"' :: value.flatMap appendRune ++ ['"']

/-- `slices.Compare(utf16.Encode(a), utf16.Encode(b)) <= 0`. -/
def runesLe (a b : List Char) : Prop := unitsLe (Utf16.encode a) (Utf16.encode b)

instance : DecidableRel runesLe := fun _ _ => inferInstanceAs (Decidable (unitsLe _ _))

mutual

/-- `appendExecutionJSON`: the text, unless it fails. -/
def appendExecutionJSON : GoValue → Option (List Char)
  | .null => some "null".toList
  | .bool true => some "true".toList
  | .bool false => some "false".toList
  | .string value => some (appendExecutionString value)
  | .number numeral =>
    if SafeInteger numeral.value then some (Numeral.ofInt numeral.value.num).text else none
  | .array entries => do
      let texts ← appendEntries entries
      pure ('[' :: join texts ++ [']'])
  | .object members => do
      if members.any (reservedKeys.contains ·.1) then none
      else
        let texts ← appendMembers members
        pure ('{' :: join ((texts.insertionSort fun a b => runesLe a.1 b.1).map
          fun (key, text) => appendExecutionString key ++ ':' :: text) ++ ['}'])

def appendEntries : List GoValue → Option (List (List Char))
  | [] => some []
  | entry :: entries => do
      let text ← appendExecutionJSON entry
      let texts ← appendEntries entries
      pure (text :: texts)

def appendMembers : List (List Char × GoValue) → Option (List (List Char × List Char))
  | [] => some []
  | (key, value) :: members => do
      let text ← appendExecutionJSON value
      let texts ← appendMembers members
      pure ((key, text) :: texts)

end

def executionJSONValue (source : List Char) : Option GoValue :=
  if byteLength source > maximumBytes ∨ validUnicodeEscapes false source = false ∨
      bridgeJSONWithinResourceBounds source = false then none
  else do
    let tree ← JsonText.parse source
    let value := decoded tree
    let _ ← executionValueWithinBounds value 0 0
    let check ← appendExecutionJSON value
    if byteLength check > maximumBytes then none else pure value

/-- **`CanonicalExecutionJSON`.** -/
def canonicalExecutionText (source : List Char) : Option (List Char) := do
  let value ← executionJSONValue source
  appendExecutionJSON value

def executionDigest (sha256 : List UInt8 → String) (source : List Char) : Option String :=
  (canonicalExecutionText source).map fun text => sha256 (utf8 text)

end AgentRoom.Contracts
