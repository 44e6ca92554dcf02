import AgentRoom.Run.Types

/-!
# Text limits and untyped payloads

The code point limits, the trimming and the patterns the event services check,
and the readers that take an untyped JSON value apart: `safeRuntimeFailureDetails`
and `parseAgentAssessment`.
-/

namespace AgentRoom

/-- `exceedsUnicodeCodePointLimit`. A Lean string's length counts code points. -/
def exceedsUnicodeCodePointLimit (value : String) (maximum : Nat) : Bool :=
  maximum < value.length

/-- White space and line terminators, as `String.prototype.trim` removes them. -/
def isTrimmed (c : Char) : Bool :=
  c.toNat ∈ [0x9, 0xA, 0xB, 0xC, 0xD, 0x20, 0xA0, 0x1680, 0x2028, 0x2029, 0x202F, 0x205F,
    0x3000, 0xFEFF] || (0x2000 ≤ c.toNat && c.toNat ≤ 0x200A)

/-- `value.trim()`. -/
def trim (value : String) : String :=
  String.ofList (((value.toList.dropWhile isTrimmed).reverse.dropWhile isTrimmed).reverse)

/-- `value.trim().length === 0`. -/
def isBlank (value : String) : Bool := value.toList.all isTrimmed

/-- `Number.isSafeInteger`, of a number that is not negative. -/
def isSafeInteger (n : Nat) : Bool := n ≤ 9007199254740991

/-- `/^[A-Z][A-Z0-9_]{2,63}$/u`. -/
def runtimeErrorCodePattern (code : String) : Bool :=
  match code.toList with
  | [] => false
  | c :: rest =>
    c.isUpper && 2 ≤ rest.length && rest.length ≤ 63 &&
      rest.all fun d => d.isUpper || d.isDigit || d = '_'

/-- `/^[0-9a-f]{64}$/u`. -/
def runtimeScopePattern (scope : String) : Bool :=
  scope.length = 64 &&
    scope.toList.all fun d => d.isDigit || ('a'.toNat ≤ d.toNat && d.toNat ≤ 'f'.toNat)

/-! ## Untyped values -/

/-- A JSON value, where the source takes `unknown`. -/
inductive Json where
  | null
  | bool (b : Bool)
  | num (q : ℚ)
  | str (s : String)
  | arr (items : List Json)
  | obj (fields : List (String × Json))

namespace Json

/-- A property of an object; `none` when the value is not an object or lacks it. -/
def field (name : String) : Json → Option Json
  | .obj fields => (fields.find? (·.1 = name)).map (·.2)
  | _ => none

def isObject : Json → Bool
  | .obj _ => true
  | _ => false

def asBool : Json → Option Bool
  | .bool b => some b
  | _ => none

def asNum : Json → Option ℚ
  | .num q => some q
  | _ => none

def asStr : Json → Option String
  | .str s => some s
  | _ => none

def asArr : Json → Option (List Json)
  | .arr items => some items
  | _ => none

def boolField (name : String) (v : Json) : Option Bool := (v.field name).bind asBool
def numField (name : String) (v : Json) : Option ℚ := (v.field name).bind asNum
def strField (name : String) (v : Json) : Option String := (v.field name).bind asStr
def arrField (name : String) (v : Json) : Option (List Json) := (v.field name).bind asArr

end Json

def runtimeFailureCategories : List String :=
  ["start", "authentication", "rate_limit", "network", "model", "configuration", "unknown"]

def safeRuntimeFailureDetails (value : Option Json) : Option FailureDetails :=
  match value with
  | some (.obj fields) =>
    let source := Json.obj fields
    let category := (source.strField "category").map fun c =>
      if c ∈ runtimeFailureCategories then c else "unknown"
    let exitCode := (source.numField "exitCode").bind fun q =>
      if q.isInt && isSafeInteger q.num.natAbs then some q.num else none
    let stderrCaptured := source.boolField "stderrCaptured"
    if category.isSome || exitCode.isSome || stderrCaptured.isSome then
      some { category, exitCode, stderrCaptured }
    else none
  | _ => none

/-- `stringList`: every item a non-blank string of at most 240 code points, at most 100 items. -/
def stringList (value : Option Json) : Option (List String) := do
  let items ← value.bind Json.asArr
  if 100 < items.length then none
  else items.mapM fun item => do
    let s ← item.asStr
    if isBlank s || exceedsUnicodeCodePointLimit s 240 then none else some s

/-- `importanceValues`. -/
def questionImportance : String → Option QuestionImportance
  | "low" => some .low
  | "medium" => some .medium
  | "high" => some .high
  | _ => none

/-- `disagreementValues`. -/
def disagreementValue : String → Option Disagreement
  | "none" => some .none
  | "low" => some .low
  | "medium" => some .medium
  | "high" => some .high
  | _ => none

def recommendationValue : String → Option Recommendation
  | "continue" => some .continue
  | "finish" => some .finish
  | "wait_human" => some .waitHuman
  | _ => none

/-- One entry of `openQuestions`, when it is well formed. -/
def parseOpenQuestion (item : Json) : Option OpenQuestion := do
  let id ← item.strField "id"
  let question ← item.strField "question"
  let importance ← (item.strField "importance").bind questionImportance
  if isBlank id || exceedsUnicodeCodePointLimit id 160 || isBlank question ||
      exceedsUnicodeCodePointLimit question 2000 then none
  else some { id, question, importance }

def parseAgentAssessment (value : Option Json) : Option AgentAssessment := do
  let raw ← value
  if raw.isObject then
    let parsed : AgentAssessment :=
      { goalSatisfied := raw.boolField "goalSatisfied"
        confidence := (raw.numField "confidence").filter fun q => 0 ≤ q ∧ q ≤ 1
        resolvedQuestionIds := stringList (raw.field "resolvedQuestionIds")
        newEvidenceRefs := stringList (raw.field "newEvidenceRefs")
        openQuestions := (raw.arrField "openQuestions").bind fun items =>
          -- a list with one malformed question is dropped whole
          if items.length ≤ 50 then items.mapM parseOpenQuestion else none
        disagreementRemaining := (raw.strField "disagreementRemaining").bind disagreementValue
        newInformationAdded := raw.boolField "newInformationAdded"
        reviewerApproved := raw.boolField "reviewerApproved"
        recommendation := (raw.strField "recommendation").bind recommendationValue }
    if parsed = {} then none else some parsed
  else none

end AgentRoom
