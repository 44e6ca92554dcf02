import AgentRoom.Bridge.Types
import AgentRoom.Lib.Checks
import AgentRoom.Lib.Utf16

/-!
# Device pairing sessions

The rows of `device_pairing_sessions` with the Devices and credentials their approvals create,
and the calls of `device-pairing-session-service.ts`. The columns of a claim are all there or all
absent, and so are those of a decision, so each group is one optional record.

A call returns its answer with the tables it leaves, or throws and leaves them as they were: the
transaction around it is rolled back.
-/

namespace AgentRoom.Pairing

open Except (demand require)
open Bridge (matchesIdentifier identifierChar)

/-! ## Records -/

inductive PairingState where
  | issued | claimed | approved | consumed | rejected | canceled | expired
  deriving DecidableEq

inductive DecisionAction where
  | approve | reject | cancel
  deriving DecidableEq

/-- `DevicePairingPrivateTrustDescriptor`; its mode is always `private_scoped_ca`. -/
structure TrustDescriptor where
  origin : String
  installationId : String
  trustEpoch : Nat
  caCertificateSha256 : String
  deriving DecidableEq

structure MemberBinding where
  memberId : Option String
  displayName : Option String
  roomIds : List String
  deriving DecidableEq

structure DeviceData where
  displayName : String
  platform : String
  bridgeVersion : String
  supportsScopedPrivateTrust : Option Bool
  deriving DecidableEq

/-- The columns a claim fills. -/
structure Claim where
  operationId : String
  pairingAttemptId : String
  pollSecretHash : String
  device : DeviceData
  clientAccessSecretHash : Option String
  verificationPhrase : String
  claimedAt : String

/-- The columns a decision fills. -/
structure Decision where
  operationId : String
  action : DecisionAction
  expectedState : PairingState
  decidedByMemberId : String
  reason : Option String
  decidedAt : String

/-- The columns an approval fills besides. -/
structure Enrolment where
  deviceId : String
  credentialId : String
  ownerMemberId : String

/-- A row of `device_pairing_sessions`. -/
structure PairingSession where
  pairingSessionId : String
  teamId : String
  ownerMemberId : String
  createOperationId : String
  claimSecretHash : String
  shortCodeHash : String
  state : PairingState
  createdAt : String
  expiresAt : String
  trust : Option TrustDescriptor
  memberBinding : Option MemberBinding
  claim : Option Claim
  decision : Option Decision
  enrolment : Option Enrolment
  consumedAt : Option String

structure DeviceRecord where
  deviceId : String
  teamId : String
  ownerMemberId : String
  name : String
  createdAt : String

structure CredentialRecord where
  credentialId : String
  deviceId : String
  secretHash : String
  createdAt : String

/-- The sessions, and the Devices and credentials their approvals created. -/
structure PairingDb where
  sessions : Table String PairingSession
  devices : Table String DeviceRecord
  credentials : Table String CredentialRecord

def PairingDb.empty : PairingDb := ⟨.empty, .empty, .empty⟩

/-! ## Input -/

structure ClaimInput where
  clientAccessSecret : Option String
  operationId : String
  pairingAttemptId : String
  pollSecret : String
  device : DeviceData
  trust : Option TrustDescriptor

/-- What the verification phrase is a digest of. -/
structure PhraseInput where
  pairingSessionId : String
  teamId : String
  ownerMemberId : String
  claimSecretHash : String
  operationId : String
  pairingAttemptId : String
  pollSecretHash : String
  device : DeviceData
  trust : Option TrustDescriptor
  memberBinding : Option (MemberBinding × String)

/-- **The platform**: SHA-256, `JSON.stringify` of the phrase input, `toUpperCase`, `Date.parse`,
which answers `none` for `NaN`, and `toISOString` of an instant in milliseconds. -/
structure Platform where
  sha256 : String → List UInt8
  stringify : PhraseInput → String
  toUpperCase : String → String
  parse : String → Option Int
  toISOString : Int → String

inductive MemberRole where
  | owner | member
  deriving DecidableEq

structure MemberPrincipal where
  memberId : String
  role : MemberRole

structure MemberRecord where
  memberId : String
  userId : Option String
  role : MemberRole

/-- **The rest of the server**, as one call finds it: members, the deployment's trust, member
bindings, the other tables, and the identifiers `createOpaqueId` draws. -/
structure Surroundings where
  requireTeamMember : String → String → Except Err MemberPrincipal
  deploymentTrust : Option TrustDescriptor
  binding : MemberPrincipal → MemberBinding → Except Err MemberBinding
  getMember : String → Option MemberRecord
  approveBinding : MemberRecord → MemberBinding → String → Except Err String
  /-- `clientAccess.grant`. -/
  grant : Enrolment → String → String → MemberBinding → Except Err Unit
  /-- The keys and checks of other tables that a new row meets. -/
  admitsSession : PairingSession → Bool
  admitsDevice : DeviceRecord → Bool
  admitsCredential : CredentialRecord → Bool
  pairingIds : List String
  deviceId : String
  credentialId : String

def invalidSession : Err := "Invalid or expired Device pairing session"

def conflict (message : String) : Err := "Device pairing conflict: " ++ message

/-- What the database throws of a row it refuses. -/
def constraintFailed : Err := "SQLITE_CONSTRAINT"

/-! ## Patterns -/

def pairingSessionPattern (value : String) : Bool := matchesIdentifier "pairing_" value
def pairingAttemptPattern (value : String) : Bool := matchesIdentifier "pairattempt_" value
def operationPattern (value : String) : Bool := matchesIdentifier "op_" value

/-- `/^[A-Za-z0-9_-]{43,128}$/u`. -/
def secretPattern (value : String) : Bool :=
  43 ≤ value.length && value.length ≤ 128 && value.toList.all identifierChar

/-- A character of `[A-HJ-NP-Z2-9]`. -/
def shortCodeChar (c : Char) : Bool :=
  (c.isUpper && c ≠ 'I' && c ≠ 'O') || ('2' ≤ c && c ≤ '9')

/-- `/^[A-HJ-NP-Z2-9]{4}-[A-HJ-NP-Z2-9]{4}-[A-HJ-NP-Z2-9]{2}$/u`. -/
def shortCodePattern (value : String) : Bool :=
  match value.toList.splitOn '-' with
  | [a, b, c] => a.length = 4 && b.length = 4 && c.length = 2 && (a ++ b ++ c).all shortCodeChar
  | _ => false

/-- `0|[1-9][0-9]*`. -/
def numericPart (digits : List Char) : Bool :=
  digits = ['0'] || (digits ≠ [] && digits.head? ≠ some '0' && digits.all Char.isDigit)

def bridgeVersionPattern (value : String) : Bool :=
  let core := value.toList.takeWhile (· ≠ '-')
  let rest := value.toList.dropWhile (· ≠ '-')
  let numbers := core.splitOn '.'
  numbers.length = 3 && numbers.all numericPart &&
    (rest.isEmpty || ((rest.drop 1).splitOnP fun c => c = '.' || c = '-').all fun part =>
      part ≠ [] && part.all Char.isAlphanum)

def platforms : List String :=
  ["darwin-amd64", "darwin-arm64", "linux-amd64", "linux-arm64", "windows-amd64", "windows-arm64"]

section Texts

variable (P : Platform)

/-- The digits of a byte. -/
def byteHex (b : UInt8) : List Char :=
  [Nat.digitChar (b.toNat / 16), Nat.digitChar (b.toNat % 16)]

def hash (value : String) : String := String.ofList ((P.sha256 value).flatMap byteHex)

def normalizeShortCode (value : String) : Except Err String := do
  let normalized := P.toUpperCase (trim value)
  require (shortCodePattern normalized) invalidSession
  return normalized

def normalizeReason : Option String → Except Err (Option String)
  | none => .ok none
  | some value => do
      let length := (Utf16.encode (trim value).toList).length
      require (1 ≤ length ∧ length ≤ 280) "Device pairing reason must contain 1 to 280 characters"
      return some (trim value)

def normalizeClaim (input : ClaimInput) : Except Err ClaimInput := do
  let displayName := trim input.device.displayName
  let length := (Utf16.encode displayName.toList).length
  require (1 ≤ length ∧ length ≤ 80) "Device display name must contain 1 to 80 characters"
  require (input.device.platform ∈ platforms) "Device platform is unsupported"
  require (bridgeVersionPattern input.device.bridgeVersion) "Bridge version is invalid"
  require (operationPattern input.operationId ∧ pairingAttemptPattern input.pairingAttemptId ∧
    secretPattern input.pollSecret) invalidSession
  require (∀ secret, input.clientAccessSecret = some secret → secretPattern secret)
    "Client access is unavailable or expired"
  return { input with device := { input.device with displayName } }

def shortCodeAlphabet : List Char := "ABCDEFGHJKLMNPQRSTUVWXYZ23456789".toList

def derivedShortCode (pairingSessionId claimSecret : String) : String :=
  let value := P.sha256 (pairingSessionId ++ "\x00" ++ claimSecret)
  let compact := (List.range 10).map fun i =>
    shortCodeAlphabet.getD ((value.getD i 0).toNat % shortCodeAlphabet.length) 'A'
  String.ofList (compact.take 4 ++ '-' :: (compact.drop 4).take 4 ++ '-' :: compact.drop 8)

def phraseFirst : List String :=
  ["AMBER", "BRISK", "CEDAR", "CORAL", "FROST", "GREEN", "IVORY", "LUNAR",
    "MAPLE", "NOBLE", "QUIET", "RAPID", "SILVER", "SOLAR", "VIOLET", "WARM"]

def phraseSecond : List String :=
  ["BAY", "BIRD", "CLOUD", "FIELD", "FOREST", "HARBOR", "LAKE", "MEADOW",
    "MOON", "PINE", "RIVER", "ROCK", "STAR", "SUMMIT", "TRAIL", "WAVE"]

def verificationPhrase (row : PairingSession) (input : ClaimInput) (pollSecretHash : String) :
    String :=
  let value := P.sha256 (P.stringify {
    pairingSessionId := row.pairingSessionId
    teamId := row.teamId
    ownerMemberId := row.ownerMemberId
    claimSecretHash := row.claimSecretHash
    operationId := input.operationId
    pairingAttemptId := input.pairingAttemptId
    pollSecretHash
    device := input.device
    trust := row.trust
    memberBinding :=
      row.memberBinding.map fun b => (b, hash P (input.clientAccessSecret.getD "")) })
  let byte (i : Nat) : Nat := (value.getD i 0).toNat
  let number := (byte 2 * 256 + byte 3) % 100
  phraseFirst.getD (byte 0 % 16) "" ++ "-" ++ phraseSecond.getD (byte 1 % 16) "" ++ "-" ++
    String.ofList [Nat.digitChar (number / 10), Nat.digitChar (number % 10)]

end Texts

/-! ## The tables -/

def PairingState.text : PairingState → String
  | .issued => "issued"
  | .claimed => "claimed"
  | .approved => "approved"
  | .consumed => "consumed"
  | .rejected => "rejected"
  | .canceled => "canceled"
  | .expired => "expired"

def PairingState.isPreDecision : PairingState → Bool
  | .issued | .claimed => true
  | _ => false

/-- The check of the table that ties the state to the columns. -/
def PairingSession.tied (row : PairingSession) : Bool :=
  match row.state with
  | .issued => row.claim.isNone && row.decision.isNone && row.enrolment.isNone &&
      row.consumedAt.isNone
  | .claimed => row.claim.isSome && row.decision.isNone && row.enrolment.isNone &&
      row.consumedAt.isNone
  | .approved => row.claim.isSome && row.decision.map Decision.action = some .approve &&
      row.enrolment.isSome && row.consumedAt.isNone
  | .consumed => row.claim.isSome && row.decision.map Decision.action = some .approve &&
      row.enrolment.isSome && row.consumedAt.isSome
  | .rejected => row.claim.isSome && row.decision.map Decision.action = some .reject &&
      row.enrolment.isNone && row.consumedAt.isNone
  | .canceled => row.decision.map Decision.action = some .cancel && row.enrolment.isNone &&
      row.consumedAt.isNone
  | .expired => row.decision.isNone && row.enrolment.isNone && row.consumedAt.isNone

/-- The checks of the table. -/
def PairingSession.checked (row : PairingSession) : Bool :=
  row.tied && (row.claim.all fun c => c.device.bridgeVersion.length ≤ 40) &&
    row.decision.all fun d => d.expectedState.isPreDecision

/-- Whether both records are there and share a unique column. -/
def clash {α : Type} (same : α → α → Bool) : Option α → Option α → Bool
  | some a, some b => same a b
  | _, _ => false

namespace PairingDb

def find (db : PairingDb) (pairingSessionId : String) : Option PairingSession :=
  db.sessions.get pairingSessionId

def findOwnerSession (db : PairingDb) (teamId pairingSessionId : String) : Option PairingSession :=
  (db.find pairingSessionId).filter fun row => row.teamId = teamId

def findByCreateOperation (db : PairingDb) (ownerMemberId operationId : String) :
    Option PairingSession :=
  db.sessions.rows.find? fun row =>
    row.ownerMemberId = ownerMemberId ∧ row.createOperationId = operationId

def findByShortCode (db : PairingDb) (shortCodeHash : String) : Option PairingSession :=
  db.sessions.rows.find? fun row => row.shortCodeHash = shortCodeHash

/-- Whether a row meets the unique columns a claim and an approval fill. -/
def free (db : PairingDb) (row : PairingSession) : Bool :=
  db.sessions.rows.all fun other => other.pairingSessionId = row.pairingSessionId ||
    (!clash (fun a b : Claim => a.pairingAttemptId = b.pairingAttemptId ||
        a.pollSecretHash = b.pollSecretHash) other.claim row.claim &&
      !clash (fun a b : Enrolment => a.deviceId = b.deviceId || a.credentialId = b.credentialId)
        other.enrolment row.enrolment)

/-- `UPDATE ... WHERE pairing_session_id = ? AND state = ?`: the tables, if it changed a row. -/
def update (db : PairingDb) (pairingSessionId : String) (state : PairingState)
    (change : PairingSession → PairingSession) : Except Err (Option PairingDb) :=
  match db.find pairingSessionId with
  | none => .ok none
  | some row =>
    if row.state ≠ state then .ok none
    else
      let changed := change row
      if changed.checked ∧ db.free changed then
        .ok (some { db with sessions := db.sessions.put pairingSessionId changed })
      else .error constraintFailed

end PairingDb

/-! ## Answers -/

structure Created where
  pairingSessionId : String
  teamId : String
  ownerMemberId : String
  shortCode : String
  createdAt : String
  expiresAt : String
  memberBinding : Option MemberBinding
  trust : Option TrustDescriptor

structure Claimed where
  pairingSessionId : String
  pairingAttemptId : String
  verificationPhrase : String
  expiresAt : String

structure Consumed where
  pairingSessionId : String
  pairingAttemptId : String
  deviceId : String
  teamId : String
  ownerMemberId : String
  clientAccessEnabled : Bool

/-- `DevicePairingSessionPollProjection`. -/
inductive Polled where
  | claimed (view : Claimed)
  | consumed (view : Consumed)
  | ended (pairingSessionId pairingAttemptId : String) (state : PairingState) (expiresAt : String)

/-- `DevicePairingSessionOwnerProjection`. -/
structure OwnerView where
  pairingSessionId : String
  teamId : String
  ownerMemberId : String
  state : PairingState
  memberBinding : Option MemberBinding
  createdAt : String
  expiresAt : String
  pairingAttemptId : Option String
  device : Option DeviceData
  verificationPhrase : Option String
  trust : Option TrustDescriptor
  deviceId : Option String
  claimedAt : Option String
  decidedAt : Option String
  consumedAt : Option String

def claimedProjection (row : PairingSession) : Except Err Claimed := do
  let claim ← demand row.claim (conflict "claimed projection is incomplete")
  return ⟨row.pairingSessionId, claim.pairingAttemptId, claim.verificationPhrase, row.expiresAt⟩

def consumedProjection (row : PairingSession) : Except Err Polled := do
  let claim ← demand row.claim (conflict "consumed projection is incomplete")
  let enrolment ← demand row.enrolment (conflict "consumed projection is incomplete")
  return .consumed ⟨row.pairingSessionId, claim.pairingAttemptId, enrolment.deviceId, row.teamId,
    enrolment.ownerMemberId, row.memberBinding.isSome⟩

def ownerProjection (row : PairingSession) : OwnerView where
  pairingSessionId := row.pairingSessionId
  teamId := row.teamId
  ownerMemberId := row.ownerMemberId
  state := row.state
  memberBinding := row.memberBinding
  createdAt := row.createdAt
  expiresAt := row.expiresAt
  pairingAttemptId := row.claim.map Claim.pairingAttemptId
  device := row.claim.map Claim.device
  verificationPhrase := row.claim.map Claim.verificationPhrase
  trust := row.trust
  deviceId := row.enrolment.map Enrolment.deviceId
  claimedAt := row.claim.map Claim.claimedAt
  decidedAt := row.decision.map Decision.decidedAt
  consumedAt := row.consumedAt

section Calls

variable (P : Platform) (S : Surroundings)

def createdProjection (row : PairingSession) (claimSecret : String) : Created where
  pairingSessionId := row.pairingSessionId
  teamId := row.teamId
  ownerMemberId := row.ownerMemberId
  shortCode := derivedShortCode P row.pairingSessionId claimSecret
  createdAt := row.createdAt
  expiresAt := row.expiresAt
  memberBinding := row.memberBinding
  trust := row.trust

/-! ## Expiry -/

/-- `Date.parse(row.expires_at) > Date.parse(now)`. -/
def unexpired (row : PairingSession) (now : String) : Bool :=
  match P.parse row.expiresAt, P.parse now with
  | some a, some b => b < a
  | _, _ => false

def expire (db : PairingDb) (row : PairingSession) (now : String) :
    Except Err (PairingSession × PairingDb) :=
  if ¬ row.state.isPreDecision ∨ unexpired P row now then .ok (row, db)
  else do
    let expired ← db.update row.pairingSessionId row.state fun r => { r with state := .expired }
    match expired with
    | some db' => return ({ row with state := .expired }, db')
    | none => return (row, db)

def requireOwner (principal teamId : String) : Except Err MemberPrincipal := do
  let member ← S.requireTeamMember principal teamId
  require (member.role = .owner) "FORBIDDEN"
  return member

/-! ## Creating -/

/-- Why an insert is refused. -/
inductive Refusal where
  | shortCode | other
  deriving DecidableEq

/-- `INSERT INTO device_pairing_sessions`, the primary key checked first. -/
def PairingDb.insert (db : PairingDb) (row : PairingSession) : Except Refusal PairingDb :=
  if (db.find row.pairingSessionId).isSome then .error .other
  else if (db.findByShortCode row.shortCodeHash).isSome then .error .shortCode
  else if (db.findByCreateOperation row.ownerMemberId row.createOperationId).isSome ∨
    ¬ row.checked ∨ ¬ S.admitsSession row then .error .other
  else .ok { db with sessions := db.sessions.put row.pairingSessionId row }

/-- A row a create operation finds: it is answered again, or it is a conflict. -/
def recreated (db : PairingDb) (existing : PairingSession) (teamId claimSecret : String)
    (trust : Option TrustDescriptor) (binding : Option MemberBinding) (now : String) :
    Except Err (Created × PairingDb) := do
  require (existing.teamId = teamId ∧ existing.memberBinding = binding ∧
    hash P claimSecret = existing.claimSecretHash ∧ existing.trust = trust)
    (conflict "create operation was reused with different input")
  let (current, db') ← expire P db existing now
  require (current.state = .issued) (conflict ("session is " ++ current.state.text))
  return (createdProjection P current claimSecret, db')

/-- The row of a new session. -/
def newSession (pairingSessionId : String) (owner : MemberPrincipal)
    (teamId operationId claimSecret : String) (trust : Option TrustDescriptor)
    (binding : Option MemberBinding) (now expiresAt : String) : PairingSession where
  pairingSessionId
  teamId
  ownerMemberId := owner.memberId
  createOperationId := operationId
  claimSecretHash := hash P claimSecret
  shortCodeHash := hash P (derivedShortCode P pairingSessionId claimSecret)
  state := .issued
  createdAt := now
  expiresAt
  trust
  memberBinding := binding
  claim := none
  decision := none
  enrolment := none
  consumedAt := none

/-- The attempts to insert a session under one of the drawn identifiers. -/
def allocate (db : PairingDb) (owner : MemberPrincipal) (teamId operationId claimSecret : String)
    (trust : Option TrustDescriptor) (binding : Option MemberBinding) (now expiresAt : String) :
    List String → Except Err (Created × PairingDb)
  | [] => .error "Could not allocate a unique Device pairing short code"
  | pairingSessionId :: rest =>
    let row := newSession P pairingSessionId owner teamId operationId claimSecret trust binding
      now expiresAt
    match db.insert S row with
    | .ok db' => .ok (createdProjection P row claimSecret, db')
    | .error refusal =>
      match db.findByCreateOperation owner.memberId operationId with
      | some raced => recreated P db raced teamId claimSecret trust binding now
      | none =>
        if refusal = .shortCode then
          allocate db owner teamId operationId claimSecret trust binding now expiresAt rest
        else .error constraintFailed

def create (db : PairingDb) (principal teamId operationId claimSecret : String)
    (memberBinding : Option MemberBinding) (now : String) : Except Err (Created × PairingDb) := do
  let owner ← requireOwner S principal teamId
  require (operationPattern operationId ∧ secretPattern claimSecret) invalidSession
  let binding ← memberBinding.mapM (S.binding owner)
  match db.findByCreateOperation owner.memberId operationId with
  | some existing => recreated P db existing teamId claimSecret S.deploymentTrust binding now
  | none =>
    let start ← demand (P.parse now) "Invalid time value"
    allocate P S db owner teamId operationId claimSecret S.deploymentTrust binding now
      (P.toISOString (start + 600000)) (S.pairingIds.take 5)

def get (db : PairingDb) (principal teamId pairingSessionId now : String) :
    Except Err (OwnerView × PairingDb) := do
  let _ ← requireOwner S principal teamId
  require (pairingSessionPattern pairingSessionId) invalidSession
  let row ← demand (db.findOwnerSession teamId pairingSessionId) invalidSession
  let (current, db') ← expire P db row now
  return (ownerProjection current, db')

/-! ## Claiming -/

def isExactClaim (row : PairingSession) (input : ClaimInput) (pollSecretHash : String) : Prop :=
  ∃ c, row.claim = some c ∧ c.operationId = input.operationId ∧
    c.pairingAttemptId = input.pairingAttemptId ∧ c.pollSecretHash = pollSecretHash ∧
    c.clientAccessSecretHash = input.clientAccessSecret.map (hash P) ∧ c.device = input.device

instance (row : PairingSession) (input : ClaimInput) (pollSecretHash : String) :
    Decidable (isExactClaim P row input pollSecretHash) :=
  match h : row.claim with
  | none => .isFalse fun ⟨_, hc, _⟩ => by rw [h] at hc; cases hc
  | some c =>
    decidable_of_iff (c.operationId = input.operationId ∧
      c.pairingAttemptId = input.pairingAttemptId ∧ c.pollSecretHash = pollSecretHash ∧
      c.clientAccessSecretHash = input.clientAccessSecret.map (hash P) ∧
      c.device = input.device)
      ⟨fun hc => ⟨c, h, hc⟩, fun ⟨_, hc, hrest⟩ => by rw [h] at hc; cases hc; exact hrest⟩

def claim (db : PairingDb) (located : Option PairingSession) (rawInput : ClaimInput)
    (now : String) (allowPrivateTrust : Bool) : Except Err (Claimed × PairingDb) := do
  let input ← normalizeClaim rawInput
  let pollSecretHash := hash P input.pollSecret
  let found ← demand located invalidSession
  let (row, db₁) ← expire P db found now
  require (row.memberBinding.isSome = input.clientAccessSecret.isSome ∧
    ∀ secret, input.clientAccessSecret = some secret →
      hash P secret ≠ pollSecretHash ∧ hash P secret ≠ row.claimSecretHash)
    "Member pairing requires an updated client with an independent human access proof"
  require (row.trust = input.trust ∧ (row.trust.isSome →
    allowPrivateTrust ∧ input.device.supportsScopedPrivateTrust = some true)) invalidSession
  if isExactClaim P row input pollSecretHash then
    require (row.state ≠ .expired) invalidSession
    let view ← claimedProjection row
    return (view, db₁)
  else
    require (row.state = .issued) invalidSession
    let phrase := verificationPhrase P row input pollSecretHash
    -- the update also compares the texts of the two times
    require (now < row.expiresAt) invalidSession
    let updated ← db₁.update row.pairingSessionId .issued fun r => { r with
      state := .claimed
      claim := some {
        operationId := input.operationId
        pairingAttemptId := input.pairingAttemptId
        pollSecretHash
        device := input.device
        clientAccessSecretHash := input.clientAccessSecret.map (hash P)
        verificationPhrase := phrase
        claimedAt := now } }
    let db₂ ← demand updated invalidSession
    return (⟨row.pairingSessionId, input.pairingAttemptId, phrase, row.expiresAt⟩, db₂)

def claimBySecret (db : PairingDb) (pairingSessionId claimSecret : String) (input : ClaimInput)
    (now : String) : Except Err (Claimed × PairingDb) := do
  require (pairingSessionPattern pairingSessionId) invalidSession
  require (secretPattern claimSecret) invalidSession
  claim P db ((db.find pairingSessionId).filter fun row =>
    hash P claimSecret = row.claimSecretHash) input now true

def claimByShortCode (db : PairingDb) (shortCode : String) (input : ClaimInput) (now : String) :
    Except Err (Claimed × PairingDb) := do
  let normalized ← normalizeShortCode P shortCode
  claim P db (db.findByShortCode (hash P normalized)) input now false

/-! ## Polling -/

def poll (db : PairingDb) (pairingSessionId pairingAttemptId pollSecret now : String) :
    Except Err (Polled × PairingDb) := do
  require (pairingSessionPattern pairingSessionId) invalidSession
  require (pairingAttemptPattern pairingAttemptId) invalidSession
  require (secretPattern pollSecret) invalidSession
  let found ← demand (db.find pairingSessionId) invalidSession
  let bound ← demand found.claim invalidSession
  require (bound.pairingAttemptId = pairingAttemptId ∧ hash P pollSecret = bound.pollSecretHash)
    invalidSession
  let (row, db₁) ← expire P db found now
  match row.state with
  | .claimed => return (.claimed ⟨pairingSessionId, pairingAttemptId, bound.verificationPhrase,
      row.expiresAt⟩, db₁)
  | .approved =>
    let updated ← db₁.update pairingSessionId .approved fun r =>
      { r with state := .consumed, consumedAt := some now }
    let db₂ ← demand updated (conflict "poll consumption raced")
    let view ← consumedProjection { row with state := .consumed, consumedAt := some now }
    return (view, db₂)
  | .consumed => do
      let view ← consumedProjection row
      return (view, db₁)
  | .issued => .error invalidSession
  | state => return (.ended pairingSessionId pairingAttemptId state row.expiresAt, db₁)

/-! ## Deciding -/

/-- The Device an approval creates for an owner. -/
def newDevice (row : PairingSession) (claim : Claim) (ownerMemberId now : String) :
    DeviceRecord where
  deviceId := S.deviceId
  teamId := row.teamId
  ownerMemberId
  name := claim.device.displayName
  createdAt := now

def newCredential (claim : Claim) (now : String) : CredentialRecord where
  credentialId := S.credentialId
  deviceId := S.deviceId
  secretHash := claim.pollSecretHash
  createdAt := now

/-- The inserts of the Device and of its credential. -/
def PairingDb.enrol (db : PairingDb) (device : DeviceRecord) (credential : CredentialRecord) :
    Except Err PairingDb := do
  require (db.devices.get device.deviceId = none ∧ S.admitsDevice device) constraintFailed
  require (db.credentials.get credential.credentialId = none ∧ S.admitsCredential credential ∧
    ∀ other ∈ db.credentials.rows, other.secretHash ≠ credential.secretHash) constraintFailed
  return { db with
    devices := db.devices.put device.deviceId device
    credentials := db.credentials.put credential.credentialId credential }

/-- The member who will own the Device: the one the binding names, or the issuer. -/
def deviceOwner (row : PairingSession) (claim : Claim) (decidedByMemberId now : String) :
    Except Err String :=
  match row.memberBinding with
  | none => .ok row.ownerMemberId
  | some binding => do
      let issuer ← demand (S.getMember row.ownerMemberId) "FORBIDDEN"
      require (issuer.userId.isSome ∧ issuer.role = .owner ∧
        decidedByMemberId = row.ownerMemberId ∧ claim.clientAccessSecretHash.isSome) "FORBIDDEN"
      S.approveBinding issuer binding now

/-- The grant of client access, of a session with a binding. -/
def grantAccess (row : PairingSession) (claim : Claim) (enrolment : Enrolment) : Except Err Unit :=
  match row.memberBinding with
  | none => .ok ()
  | some binding =>
    S.grant enrolment row.ownerMemberId (claim.clientAccessSecretHash.getD "") binding

def approveRow (db : PairingDb) (row : PairingSession)
    (operationId decidedByMemberId now : String) :
    Except Err (PairingSession × PairingDb) := do
  let claim ← demand row.claim (conflict "claimed proof is incomplete")
  let owner ← deviceOwner S row claim decidedByMemberId now
  let db₁ ← db.enrol S (newDevice S row claim owner now) (newCredential S claim now)
  let enrolment : Enrolment := ⟨S.deviceId, S.credentialId, owner⟩
  grantAccess S row claim enrolment
  let decision : Decision := ⟨operationId, .approve, .claimed, decidedByMemberId, none, now⟩
  let updated ← db₁.update row.pairingSessionId .claimed fun r => { r with
    state := .approved
    decision := some decision
    enrolment := some enrolment }
  let db₂ ← demand updated (conflict "approval raced")
  return ({ row with
    state := .approved
    decision := some decision
    enrolment := some enrolment }, db₂)

/-- The state a reject or a cancel leads to. -/
def DecisionAction.nextState : DecisionAction → PairingState
  | .reject => .rejected
  | _ => .canceled

/-- `decide`. A route passes any text as the expected state; one that names no state is refused
like one that names another. -/
def decide (db : PairingDb) (principal teamId pairingSessionId : String) (action : DecisionAction)
    (expectedState : PairingState) (operationId : String) (reason : Option String) (now : String) :
    Except Err (OwnerView × PairingDb) := do
  let decidingOwner ← requireOwner S principal teamId
  require (pairingSessionPattern pairingSessionId) invalidSession
  require (operationPattern operationId) invalidSession
  require (action = .cancel ∨ expectedState = .claimed)
    (conflict "decision expected state is invalid")
  let found ← demand (db.findOwnerSession teamId pairingSessionId) invalidSession
  let (row, db₁) ← expire P db found now
  match row.decision.filter fun d => d.operationId = operationId with
  | some d =>
    require (d.action = action ∧ d.expectedState = expectedState ∧
      d.decidedByMemberId = decidingOwner.memberId ∧ d.reason = reason)
      (conflict "decision operation was reused with different input")
    return (ownerProjection row, db₁)
  | none =>
    require (row.state = expectedState)
      (conflict ("session is " ++ row.state.text ++ ", expected " ++ expectedState.text))
    if action = .approve then
      let (approved, db₂) ← approveRow S db₁ row operationId decidingOwner.memberId now
      return (ownerProjection approved, db₂)
    else
      let decision : Decision :=
        ⟨operationId, action, expectedState, decidingOwner.memberId, reason, now⟩
      let updated ← db₁.update pairingSessionId expectedState fun r =>
        { r with state := action.nextState, decision := some decision }
      let db₂ ← demand updated (conflict "decision raced")
      return (ownerProjection { row with state := action.nextState, decision := some decision },
        db₂)

def approve (db : PairingDb) (principal teamId pairingSessionId : String)
    (expectedState : PairingState) (operationId now : String) :
    Except Err (OwnerView × PairingDb) :=
  decide P S db principal teamId pairingSessionId .approve expectedState operationId none now

def reject (db : PairingDb) (principal teamId pairingSessionId : String)
    (expectedState : PairingState) (operationId : String) (reason : Option String) (now : String) :
    Except Err (OwnerView × PairingDb) := do
  let reason ← normalizeReason reason
  decide P S db principal teamId pairingSessionId .reject expectedState operationId reason now

def cancel (db : PairingDb) (principal teamId pairingSessionId : String)
    (expectedState : PairingState) (operationId : String) (reason : Option String) (now : String) :
    Except Err (OwnerView × PairingDb) := do
  let reason ← normalizeReason reason
  decide P S db principal teamId pairingSessionId .cancel expectedState operationId reason now

end Calls

end AgentRoom.Pairing
