import AgentRoom.Lib.System
import AgentRoom.Pairing.SessionFacts

/-!
# The law of pairing sessions

The sessions under any sequence of calls by owners and Bridges, at any times. `Inv` ties every
enrolled session to its own Device and credential, and every Device and credential to its
session; `Evolves` is what one session may become.
-/

namespace AgentRoom.Pairing

/-- **The pairing service.** -/
def pairing (P : Platform) : System PairingDb Event where
  init db := db = .empty
  step e db db' := db' = e.after P db

/-! ## What becomes of one session -/

/-- The moves of a session. -/
inductive Move : PairingState → PairingState → Prop where
  | claim : Move .issued .claimed
  | approve : Move .claimed .approved
  | consume : Move .approved .consumed
  | reject : Move .claimed .rejected
  | cancelIssued : Move .issued .canceled
  | cancelClaimed : Move .claimed .canceled
  | expireIssued : Move .issued .expired
  | expireClaimed : Move .claimed .expired

/-- The states no session leaves. -/
def PairingState.isFinal : PairingState → Bool
  | .consumed | .rejected | .canceled | .expired => true
  | _ => false

theorem Move.not_final {a b : PairingState} (h : Move a b) : a.isFinal = false := by
  cases h <;> rfl

/-- What a session may have become: it moved along, a final one is as it was, and what a claim,
a decision or an approval wrote is kept. -/
structure Evolves (row row' : PairingSession) : Prop where
  id : row'.pairingSessionId = row.pairingSessionId
  moves : Relation.ReflTransGen Move row.state row'.state
  final : row.state.isFinal = true → row' = row
  claim : ∀ c, row.claim = some c → row'.claim = some c
  decision : ∀ d, row.decision = some d → row'.decision = some d
  enrolment : ∀ en, row.enrolment = some en → row'.enrolment = some en
  issue : row'.teamId = row.teamId ∧ row'.ownerMemberId = row.ownerMemberId ∧
    row'.createOperationId = row.createOperationId ∧
    row'.claimSecretHash = row.claimSecretHash ∧ row'.expiresAt = row.expiresAt

namespace Evolves

variable {row row' row'' : PairingSession}

theorem refl (row : PairingSession) : Evolves row row :=
  ⟨rfl, .refl, fun _ => rfl, fun _ h => h, fun _ h => h, fun _ h => h, rfl, rfl, rfl, rfl, rfl⟩

theorem trans (h : Evolves row row') (h' : Evolves row' row'') : Evolves row row'' where
  id := h'.id.trans h.id
  moves := h.moves.trans h'.moves
  final := fun hfinal => by
    have hsame := h.final hfinal
    subst hsame
    exact h'.final hfinal
  claim := fun c hc => h'.claim c (h.claim c hc)
  decision := fun d hd => h'.decision d (h.decision d hd)
  enrolment := fun en hen => h'.enrolment en (h.enrolment en hen)
  issue := by
    obtain ⟨h1, h2, h3, h4, h5⟩ := h.issue
    obtain ⟨h1', h2', h3', h4', h5'⟩ := h'.issue
    exact ⟨h1'.trans h1, h2'.trans h2, h3'.trans h3, h4'.trans h4, h5'.trans h5⟩

end Evolves

variable {row : PairingSession}

theorem tied_of_checked (h : row.checked = true) : row.tied = true := by
  simp only [PairingSession.checked, Bool.and_eq_true] at h
  exact h.1.1

theorem claim_of_issued (h : row.checked = true) (hstate : row.state = .issued) :
    row.claim = none ∧ row.decision = none ∧ row.enrolment = none := by
  have htied := tied_of_checked h
  simp [PairingSession.tied, hstate] at htied
  exact ⟨htied.1.1.1, htied.1.1.2, htied.1.2⟩

theorem undecided_of_claimed (h : row.checked = true) (hstate : row.state = .claimed) :
    row.decision = none ∧ row.enrolment = none := by
  have htied := tied_of_checked h
  simp [PairingSession.tied, hstate] at htied
  exact ⟨htied.1.1.2, htied.1.2⟩

theorem undecided_of_preDecision (h : row.checked = true) (hpre : row.state.isPreDecision = true) :
    row.decision = none ∧ row.enrolment = none := by
  cases hstate : row.state with
  | issued => exact (claim_of_issued h hstate).2
  | claimed => exact undecided_of_claimed h hstate
  | approved | consumed | rejected | canceled | expired =>
    rw [hstate] at hpre
    cases hpre

theorem Change.move {row' : PairingSession} (h : Change row row') :
    Move row.state row'.state := by
  cases h with
  | expired hpre =>
    cases hstate : row.state <;> simp_all [PairingState.isPreDecision]
    · exact .expireIssued
    · exact .expireClaimed
  | claimed c hissued =>
    rw [hissued]
    exact .claim
  | consumed now happroved =>
    rw [happroved]
    exact .consume
  | rejected d hclaimed =>
    rw [hclaimed]
    exact .reject
  | canceled d hpre =>
    cases hstate : row.state <;> simp_all [PairingState.isPreDecision]
    · exact .cancelIssued
    · exact .cancelClaimed

theorem Change.evolves {row' : PairingSession} (hchecked : row.checked = true)
    (h : Change row row') :
    Evolves row row' := by
  have hmove := h.move
  have hfinal : row.state.isFinal = true → row' = row := fun hfinal => by
    rw [hmove.not_final] at hfinal
    cases hfinal
  cases h with
  | expired hpre =>
    exact ⟨rfl, .single hmove, hfinal, fun _ h => h, fun _ h => h, fun _ h => h, rfl, rfl, rfl,
      rfl, rfl⟩
  | claimed c hissued =>
    have hnone := (claim_of_issued hchecked hissued).1
    refine ⟨rfl, .single hmove, hfinal, fun c' hc' => ?_, fun _ h => h, fun _ h => h, rfl, rfl,
      rfl, rfl, rfl⟩
    rw [hnone] at hc'
    cases hc'
  | consumed now happroved =>
    exact ⟨rfl, .single hmove, hfinal, fun _ h => h, fun _ h => h, fun _ h => h, rfl, rfl, rfl,
      rfl, rfl⟩
  | rejected d hclaimed =>
    have hnone := (undecided_of_claimed hchecked hclaimed).1
    refine ⟨rfl, .single hmove, hfinal, fun _ h => h, fun d' hd' => ?_, fun _ h => h, rfl, rfl,
      rfl, rfl, rfl⟩
    rw [hnone] at hd'
    cases hd'
  | canceled d hpre =>
    have hnone := (undecided_of_preDecision hchecked hpre).1
    refine ⟨rfl, .single hmove, hfinal, fun _ h => h, fun d' hd' => ?_, fun _ h => h, rfl, rfl,
      rfl, rfl, rfl⟩
    rw [hnone] at hd'
    cases hd'

variable {P : Platform} {e : Event} {db : PairingDb}

theorem Approval.move (a : Approval P e db) :
    Move a.row.state a.approved.state := by
  rw [a.claimed]
  exact .approve

theorem Approval.evolves (a : Approval P e db) (hchecked : a.row.checked = true) :
    Evolves a.row a.approved := by
  obtain ⟨hdecision, henrolment⟩ := undecided_of_claimed hchecked a.claimed
  refine ⟨rfl, .single a.move, fun hfinal => ?_, fun _ h => h, fun d hd => ?_, fun en hen => ?_,
    rfl, rfl, rfl, rfl, rfl⟩
  · rw [a.claimed] at hfinal
    cases hfinal
  · rw [hdecision] at hd
    cases hd
  · rw [henrolment] at hen
    cases hen

/-! ## The invariant -/

/-- A session and the Device and credential its approval created. -/
structure Enrolled (db : PairingDb) (row : PairingSession) (en : Enrolment) : Prop where
  device : ∃ device, db.devices.get en.deviceId = some device ∧ device.deviceId = en.deviceId ∧
    device.teamId = row.teamId ∧ device.ownerMemberId = en.ownerMemberId
  credential : ∃ c credential, row.claim = some c ∧
    db.credentials.get en.credentialId = some credential ∧
    credential.credentialId = en.credentialId ∧ credential.deviceId = en.deviceId ∧
    credential.secretHash = c.pollSecretHash

/-- What holds of the tables after any sequence of calls. -/
structure Inv (db : PairingDb) : Prop where
  keyed : Keyed db
  checked : ∀ id row, db.find id = some row → row.checked = true
  enrolled : ∀ id row en, db.find id = some row → row.enrolment = some en → Enrolled db row en
  deviceOf : ∀ id device, db.devices.get id = some device →
    ∃ row en, db.find row.pairingSessionId = some row ∧ row.enrolment = some en ∧ en.deviceId = id
  credentialOf : ∀ id credential, db.credentials.get id = some credential →
    ∃ row en, db.find row.pairingSessionId = some row ∧ row.enrolment = some en ∧
      en.credentialId = id
  own : ∀ id id' row row' en en', db.find id = some row → db.find id' = some row' →
    row.enrolment = some en → row'.enrolment = some en' → en.deviceId = en'.deviceId → id = id'

theorem inv_init : Inv .empty := by
  constructor <;> intro id <;> intros <;>
    simp_all [PairingDb.find, PairingDb.empty]

section Steps

variable {P : Platform} {e : Event} {db db' : PairingDb} {row : PairingSession}

theorem Change.enrolment_eq {row' : PairingSession} (h : Change row row') :
    row'.enrolment = row.enrolment := by
  cases h <;> rfl

/-- A session stays enrolled while its claim and its team stay and nothing is taken from the other
tables. -/
theorem Enrolled.frame {row' : PairingSession} {en : Enrolment} (h : Enrolled db row en)
    (hevolves : Evolves row row')
    (hdevices : ∀ id d, db.devices.get id = some d → db'.devices.get id = some d)
    (hcredentials : ∀ id c, db.credentials.get id = some c → db'.credentials.get id = some c) :
    Enrolled db' row' en := by
  obtain ⟨device, hdevice, hid, hteam, howner⟩ := h.device
  obtain ⟨c, credential, hc, hcredential, hrest⟩ := h.credential
  refine ⟨⟨device, hdevices _ _ hdevice, hid, ?_, howner⟩,
    ⟨c, credential, hevolves.claim c hc, hcredentials _ _ hcredential, hrest⟩⟩
  rw [hevolves.issue.1, hteam]

variable {id : String}

theorem find_put {id' : String} {devices : Table String DeviceRecord}
    {credentials : Table String CredentialRecord} :
    PairingDb.find ⟨db.sessions.put id row, devices, credentials⟩ id' =
      if id' = id then some row else db.find id' :=
  Table.get_put _ _ _ _

theorem get_put_of_some {V : Type} {t : Table String V} {id' : String} {v w : V}
    (hfree : t.get id = none) (h : t.get id' = some v) : (t.put id w).get id' = some v := by
  rw [Table.get_put_ne]
  · exact h
  · rintro rfl
    rw [hfree] at h
    cases h

/-- A new session enrols nothing. -/
theorem Inv.inserted (hinv : Inv db) (hfree : db.find row.pairingSessionId = none)
    (hstate : row.state = .issued) (hchecked : row.checked = true) :
    Inv { db with sessions := db.sessions.put row.pairingSessionId row } := by
  -- an issued session has enrolled nothing
  have hnone := (claim_of_issued hchecked hstate).2.2
  have hkept : ∀ {r : PairingSession}, db.find r.pairingSessionId = some r →
      PairingDb.find { db with sessions := db.sessions.put row.pairingSessionId row }
        r.pairingSessionId = some r := fun hr => get_put_of_some hfree hr
  constructor
  case keyed =>
    intro id r hr
    have hr : PairingDb.find _ id = some r := hr
    rw [find_put] at hr
    split at hr
    · next hid =>
        cases hr
        exact hid.symm
    · exact hinv.keyed id r hr
  case checked =>
    intro id r hr
    rw [find_put] at hr
    split at hr
    · cases hr
      exact hchecked
    · exact hinv.checked id r hr
  case enrolled =>
    intro id r en hr hen
    rw [find_put] at hr
    split at hr
    · cases hr
      rw [hnone] at hen
      cases hen
    · exact (hinv.enrolled id r en hr hen).frame (.refl r) (fun _ _ h => h) fun _ _ h => h
  case deviceOf =>
    intro id device hdevice
    obtain ⟨r, en, hr, hen⟩ := hinv.deviceOf id device hdevice
    exact ⟨r, en, hkept hr, hen⟩
  case credentialOf =>
    intro id credential hcredential
    obtain ⟨r, en, hr, hen⟩ := hinv.credentialOf id credential hcredential
    exact ⟨r, en, hkept hr, hen⟩
  case own =>
    intro id id' r r' en en' hr hr' hen hen' hsame
    rw [find_put] at hr hr'
    split at hr
    · cases hr
      rw [hnone] at hen
      cases hen
    · split at hr'
      · cases hr'
        rw [hnone] at hen'
        cases hen'
      · exact hinv.own id id' r r' en en' hr hr' hen hen' hsame

/-- A step of one session keeps what its approval created. -/
theorem Inv.changed (hinv : Inv db) {row row' : PairingSession}
    (hfind : db.find row.pairingSessionId = some row) (hchange : Change row row')
    (hchecked : row'.checked = true) :
    Inv { db with sessions := db.sessions.put row.pairingSessionId row' } := by
  have hevolves := hchange.evolves (hinv.checked _ row hfind)
  -- every session of the new tables was one of the old, with the same enrolment
  have hold : ∀ id r, PairingDb.find
      { db with sessions := db.sessions.put row.pairingSessionId row' } id = some r →
      ∃ old, db.find id = some old ∧ Evolves old r ∧ r.enrolment = old.enrolment := by
    intro id r hr
    rw [find_put] at hr
    split at hr
    · next hid =>
        cases hr
        exact ⟨row, by rwa [hid], hevolves, hchange.enrolment_eq⟩
    · exact ⟨r, hr, .refl r, rfl⟩
  have hnew : ∀ {r : PairingSession}, db.find r.pairingSessionId = some r → ∃ r',
      PairingDb.find { db with sessions := db.sessions.put row.pairingSessionId row' }
        r'.pairingSessionId = some r' ∧ r'.enrolment = r.enrolment := by
    intro r hr
    by_cases hid : r.pairingSessionId = row.pairingSessionId
    · rw [hid, hfind] at hr
      cases hr
      refine ⟨row', ?_, hchange.enrolment_eq⟩
      rw [find_put, hevolves.id, if_pos rfl]
    · refine ⟨r, ?_, rfl⟩
      rw [find_put, if_neg hid]
      exact hr
  constructor
  case keyed =>
    intro id r hr
    obtain ⟨old, hfound, hold, -⟩ := hold id r hr
    rw [hold.id]
    exact hinv.keyed id old hfound
  case checked =>
    intro id r hr
    rw [find_put] at hr
    split at hr
    · cases hr
      exact hchecked
    · exact hinv.checked id r hr
  case enrolled =>
    intro id r en hr hen
    obtain ⟨old, hfound, hold, hsame⟩ := hold id r hr
    rw [hsame] at hen
    exact (hinv.enrolled id old en hfound hen).frame hold (fun _ _ h => h) fun _ _ h => h
  case deviceOf =>
    intro id device hdevice
    obtain ⟨r, en, hr, hen, hid⟩ := hinv.deviceOf id device hdevice
    obtain ⟨r', hr', hsame⟩ := hnew hr
    exact ⟨r', en, hr', hsame.trans hen, hid⟩
  case credentialOf =>
    intro id credential hcredential
    obtain ⟨r, en, hr, hen, hid⟩ := hinv.credentialOf id credential hcredential
    obtain ⟨r', hr', hsame⟩ := hnew hr
    exact ⟨r', en, hr', hsame.trans hen, hid⟩
  case own =>
    intro id id' r r' en en' hr hr' hen hen' hsame
    obtain ⟨old, hfound, -, h1⟩ := hold id r hr
    obtain ⟨old', hfound', -, h2⟩ := hold id' r' hr'
    exact hinv.own id id' old old' en en' hfound hfound' (h1 ▸ hen) (h2 ▸ hen') hsame

/-- An approval enrols its session with a Device and a credential that were not there. -/
theorem Inv.approved (hinv : Inv db) (a : Approval P e db) (hchecked : a.approved.checked = true) :
    Inv a.after := by
  have hevolves := a.evolves (hinv.checked _ a.row a.found)
  have hfind : ∀ id, a.after.find id =
      if id = a.row.pairingSessionId then some a.approved else db.find id := fun id => find_put
  have hdevices : ∀ id d, db.devices.get id = some d → a.after.devices.get id = some d :=
    fun id d hd => get_put_of_some a.deviceFree hd
  have hcredentials : ∀ id c, db.credentials.get id = some c →
      a.after.credentials.get id = some c := fun id c hc => get_put_of_some a.credentialFree hc
  have hself : a.after.find a.approved.pairingSessionId = some a.approved := by
    rw [hfind, hevolves.id, if_pos rfl]
  -- the sessions enrolled before keep clear of the new Device
  have hclear : ∀ id r en, db.find id = some r → r.enrolment = some en →
      id ≠ a.row.pairingSessionId ∧ en.deviceId ≠ e.surroundings.deviceId := by
    intro id r en hr hen
    constructor
    · rintro rfl
      rw [a.found] at hr
      cases hr
      rw [(undecided_of_claimed (hinv.checked _ a.row a.found) a.claimed).2] at hen
      cases hen
    · intro hsame
      obtain ⟨device, hdevice, -⟩ := (hinv.enrolled id r en hr hen).device
      rw [hsame, a.deviceFree] at hdevice
      cases hdevice
  have hkept : ∀ {r : PairingSession} {en : Enrolment}, db.find r.pairingSessionId = some r →
      r.enrolment = some en → a.after.find r.pairingSessionId = some r := by
    intro r en hr hen
    rw [hfind, if_neg (hclear _ r en hr hen).1]
    exact hr
  constructor
  case keyed =>
    intro id r hr
    have hr : a.after.find id = some r := hr
    rw [hfind] at hr
    split at hr
    · next hid =>
        cases hr
        rw [hevolves.id, hid]
    · exact hinv.keyed id r hr
  case checked =>
    intro id r hr
    rw [hfind] at hr
    split at hr
    · cases hr
      exact hchecked
    · exact hinv.checked id r hr
  case enrolled =>
    intro id r en hr hen
    rw [hfind] at hr
    split at hr
    · cases hr
      cases hen
      exact ⟨⟨a.device, Table.get_put_self _ _ _, rfl, rfl, rfl⟩,
        ⟨a.claim, a.credential, a.bound, Table.get_put_self _ _ _, rfl, rfl, rfl⟩⟩
    · exact (hinv.enrolled id r en hr hen).frame (.refl r) hdevices hcredentials
  case deviceOf =>
    intro id device hdevice
    by_cases hid : id = e.surroundings.deviceId
    · exact ⟨a.approved, a.enrolment, hself, rfl, hid.symm⟩
    · have hold : db.devices.get id = some device := by
        have hput : (db.devices.put e.surroundings.deviceId a.device).get id = some device :=
          hdevice
        rwa [Table.get_put_ne _ _ hid] at hput
      obtain ⟨r, en, hr, hen, hsame⟩ := hinv.deviceOf id device hold
      exact ⟨r, en, hkept hr hen, hen, hsame⟩
  case credentialOf =>
    intro id credential hcredential
    by_cases hid : id = e.surroundings.credentialId
    · exact ⟨a.approved, a.enrolment, hself, rfl, hid.symm⟩
    · have hold : db.credentials.get id = some credential := by
        have hput : (db.credentials.put e.surroundings.credentialId a.credential).get id =
          some credential := hcredential
        rwa [Table.get_put_ne _ _ hid] at hput
      obtain ⟨r, en, hr, hen, hsame⟩ := hinv.credentialOf id credential hold
      exact ⟨r, en, hkept hr hen, hen, hsame⟩
  case own =>
    intro id id' r r' en en' hr hr' hen hen' hsame
    rw [hfind] at hr hr'
    split at hr <;> split at hr'
    · next hid hid' => exact hid.trans hid'.symm
    · cases hr
      cases hen
      exact absurd hsame.symm (hclear id' r' en' hr' hen').2
    · cases hr'
      cases hen'
      exact absurd hsame (hclear id r en hr hen).2
    · exact hinv.own id id' r r' en en' hr hr' hen hen' hsame

/-- **Every write keeps the invariant.** -/
theorem Inv.write (hinv : Inv db) (h : Write P e db db') : Inv db' := by
  cases h with
  | inserted row hfree hstate hchecked => exact hinv.inserted hfree hstate hchecked
  | changed row row' hfind hchange hchecked => exact hinv.changed hfind hchange hchecked
  | approved a hchecked => exact hinv.approved a hchecked

theorem inv_reachable (h : (pairing P).Reachable db) : Inv db := by
  refine System.invariant Inv (fun s hs => ?_) (fun e s s' hs hinv => ?_) h
  · obtain rfl : s = .empty := hs
    exact inv_init
  · obtain rfl : s' = e.after P s := hs
    rcases after_write hinv.keyed e with hsame | hw
    · rwa [hsame]
    · exact hinv.write hw

/-! ## One call -/

/-- What one call makes of one session: nothing, or one move. -/
theorem Inv.step (hinv : Inv db) (h : Write P e db db') (hrow : db.find id = some row) :
    ∃ row', db'.find id = some row' ∧ Evolves row row' ∧
      (row' = row ∨ Move row.state row'.state) := by
  cases h with
  | inserted new hfree hstate hchecked =>
    exact ⟨row, get_put_of_some hfree hrow, .refl row, .inl rfl⟩
  | changed old new hfind hchange hchecked =>
    rw [find_put]
    split
    · next hid =>
        rw [hid, hfind] at hrow
        cases hrow
        exact ⟨new, rfl, hchange.evolves (hinv.checked _ _ hfind), .inr hchange.move⟩
    · exact ⟨row, hrow, .refl row, .inl rfl⟩
  | approved a hchecked =>
    have hput : a.after.find id =
        if id = a.row.pairingSessionId then some a.approved else db.find id := find_put
    rw [hput]
    split
    · next hid =>
        have hfound := a.found
        rw [← hid, hrow] at hfound
        cases hfound
        exact ⟨a.approved, rfl, a.evolves (hinv.checked _ _ hrow), .inr a.move⟩
    · exact ⟨row, hrow, .refl row, .inl rfl⟩

theorem Inv.after_step (hinv : Inv db) (e : Event) (hrow : db.find id = some row) :
    ∃ row', (e.after P db).find id = some row' ∧ Evolves row row' ∧
      (row' = row ∨ Move row.state row'.state) := by
  rcases after_write hinv.keyed e with hsame | hw
  · rw [hsame]
    exact ⟨row, hrow, .refl row, .inl rfl⟩
  · exact hinv.step hw hrow

/-! ## Repeats -/

variable {operationId : String}

/-- A create operation that has its session changes nothing. -/
theorem Inv.create_again (hinv : Inv db) {principal teamId claimSecret : String}
    {binding : Option MemberBinding} {owner : MemberPrincipal}
    (hcall : e.call = .create principal teamId operationId claimSecret binding)
    (howner : requireOwner e.surroundings principal teamId = .ok owner)
    (hrow : db.find id = some row) (hsame : row.ownerMemberId = owner.memberId ∧
      row.createOperationId = operationId) : e.after P db = db := by
  have hmem : row ∈ db.sessions.rows := Table.mem_rows.mpr ⟨id, hrow⟩
  unfold Event.after
  split
  · next answer db' h =>
      unfold Event.answer at h
      simp only [hcall] at h
      obtain ⟨view, hview, -⟩ := of_map h
      unfold create at hview
      rw [Except.bind_of_ok howner] at hview
      obtain ⟨-, hview⟩ := Except.of_require hview
      obtain ⟨bound, -, hview⟩ := Except.of_bind hview
      split at hview
      · next existing hexisting =>
          exact recreated_ok (hinv.keyed.find_of_mem (List.mem_of_find?_eq_some hexisting)) hview
      · next hnone =>
          have hno := List.find?_eq_none.mp hnone row hmem
          simp [hsame] at hno
  · rfl

/-- A claim of a session that has its claim changes nothing. -/
theorem Inv.claim_again (hinv : Inv db) (hclaim : row.claim.isSome = true)
    (hcall : (∃ id secret input, e.call = .claimBySecret id secret input ∧ db.find id = some row) ∨
      ∃ code normalized input, e.call = .claimByShortCode code input ∧
        normalizeShortCode P code = .ok normalized ∧
        db.findByShortCode (hash P normalized) = some row) : e.after P db = db := by
  -- an issued session has no claim
  have hissued : ∀ id, db.find id = some row → row.state ≠ .issued := by
    intro id hrow hstate
    rw [(claim_of_issued (hinv.checked id row hrow) hstate).1] at hclaim
    cases hclaim
  unfold Event.after
  split
  · next answer db' h =>
      unfold Event.answer at h
      rcases hcall with ⟨id, secret, input, hcall, hrow⟩ | ⟨code, n, input, hcall, hn, hrow⟩
      · simp only [hcall] at h
        obtain ⟨view, hview, -⟩ := of_map h
        obtain ⟨found, hfound, ⟨-, hsame⟩ | ⟨hstate, -⟩⟩ :=
          claimBySecret_ok (e := e) hinv.keyed hview
        · exact hsame
        · rw [hrow] at hfound
          cases hfound
          exact absurd hstate (hissued id hrow)
      · simp only [hcall] at h
        obtain ⟨view, hview, -⟩ := of_map h
        obtain ⟨n', found, hn', hfound, ⟨-, hsame⟩ | ⟨hstate, -⟩⟩ :=
          claimByShortCode_ok (e := e) hinv.keyed hview
        · exact hsame
        · rw [hn] at hn'
          cases hn'
          have hstored := hinv.keyed.find_of_mem (List.mem_of_find?_eq_some hrow)
          rw [hrow] at hfound
          cases hfound
          exact absurd hstate (hissued _ hstored)
  · rfl

/-- The session and the operation id of a decision. -/
def Call.decides : Call → Option (String × String)
  | .approve _ _ id _ operationId => some (id, operationId)
  | .reject _ _ id _ operationId _ => some (id, operationId)
  | .cancel _ _ id _ operationId _ => some (id, operationId)
  | _ => none

theorem Inv.decide_again (hinv : Inv db) {S : Surroundings} {principal teamId now : String}
    {action : DecisionAction} {expectedState : PairingState} {reason : Option String}
    {view : OwnerView} {d : Decision} (hrow : db.find id = some row) (hd : row.decision = some d)
    (h : decide P S db principal teamId id action expectedState operationId reason now =
      .ok (view, db')) : db' = db := by
  obtain ⟨owner, found, current, db₁, -, hexpected, hfound, hexpire, hdone⟩ := decide_ok h
  obtain ⟨hfind, -, hid⟩ := findOwnerSession_ok hinv.keyed hfound
  obtain rfl : found = row := by
    rw [hid, hrow] at hfind
    cases hfind
    rfl
  have hdecided : found.state.isPreDecision ≠ true := by
    intro hpre
    rw [(undecided_of_preDecision (hinv.checked id found hrow) hpre).1] at hd
    cases hd
  rcases expire_ok hfind hexpire with ⟨rfl, rfl, -⟩ | ⟨hpre, -, -, -⟩
  · rcases hdone with ⟨_, -, -, hsame⟩ | ⟨hstate, ⟨rfl, -⟩ | ⟨-, hupdate⟩⟩
    · exact hsame
    · rw [hstate, hexpected.resolve_left nofun] at hdecided
      exact absurd rfl hdecided
    · obtain ⟨_, -, -, hchecked, -⟩ := update_ok hupdate
      rw [hstate] at hdecided
      exact absurd (expected_of_checked hchecked rfl) hdecided
  · exact absurd hpre hdecided

/-- A decision on a session that has its decision changes nothing. -/
theorem Inv.decision_again (hinv : Inv db) {d : Decision}
    (hcall : e.call.decides = some (id, operationId)) (hrow : db.find id = some row)
    (hd : row.decision = some d) : e.after P db = db := by
  unfold Event.after
  split
  · next answer db' h =>
      unfold Event.answer at h
      split at h <;> rename_i hkind <;> rw [hkind] at hcall <;> cases hcall <;>
        obtain ⟨view, hview, -⟩ := of_map h
      · exact hinv.decide_again hrow hd hview
      · obtain ⟨reason, -, hview⟩ := Except.of_bind hview
        exact hinv.decide_again hrow hd hview
      · obtain ⟨reason, -, hview⟩ := Except.of_bind hview
        exact hinv.decide_again hrow hd hview
  · rfl

end Steps

/-! ## The law -/

/-- **The law of a pairing session.** -/
structure SessionLaw (P : Platform) (db : PairingDb) : Prop where
  /-- Whatever is called later, a session moved along, and its claim, its decision and what its
  approval created are what they were. -/
  evolves : ∀ db', (pairing P).Steps db db' → ∀ id row, db.find id = some row →
    ∃ row', db'.find id = some row' ∧ Evolves row row'
  /-- One call makes at most one move of a session. -/
  moves : ∀ (e : Event) id row, db.find id = some row →
    ∃ row', (e.after P db).find id = some row' ∧ (row' = row ∨ Move row.state row'.state)
  /-- A new session is issued and unclaimed. -/
  starts : ∀ (e : Event) id row, db.find id = none → (e.after P db).find id = some row →
    row.state = .issued ∧ row.claim = none
  /-- A Device or a credential is only created by an owner's approval of a session that is
  claimed and not expired. -/
  creates : ∀ e : Event, (e.after P db).devices = db.devices ∧
      (e.after P db).credentials = db.credentials ∨
    ∃ a : Approval P e db, e.after P db = a.after
  /-- An enrolled session has its Device, and its credential is the poll proof of its claim. -/
  enrolled : ∀ id row en, db.find id = some row → row.enrolment = some en → Enrolled db row en
  /-- Every Device and every credential is that of one session. -/
  deviceOf : ∀ id device, db.devices.get id = some device →
    ∃ row en, db.find row.pairingSessionId = some row ∧ row.enrolment = some en ∧ en.deviceId = id
  credentialOf : ∀ id credential, db.credentials.get id = some credential →
    ∃ row en, db.find row.pairingSessionId = some row ∧ row.enrolment = some en ∧
      en.credentialId = id
  own : ∀ id id' row row' en en', db.find id = some row → db.find id' = some row' →
    row.enrolment = some en → row'.enrolment = some en' → en.deviceId = en'.deviceId → id = id'
  /-- A poll that is told of the consumption carried the proof of the claim. -/
  polls : ∀ (e : Event) id attempt secret told db', e.call = .poll id attempt secret →
    e.answer P db = .ok (.polled (.consumed told), db') →
    ∃ row c en, db'.find id = some row ∧ row.state = .consumed ∧ row.claim = some c ∧
      c.pairingAttemptId = attempt ∧ hash P secret = c.pollSecretHash ∧
      row.enrolment = some en ∧ told.deviceId = en.deviceId
  /-- Repeating the operation that created a session, claimed it or decided it changes nothing,
  whatever its data. -/
  createAgain : ∀ (e : Event) principal teamId operationId claimSecret binding owner id row,
    e.call = .create principal teamId operationId claimSecret binding →
    requireOwner e.surroundings principal teamId = .ok owner → db.find id = some row →
    row.ownerMemberId = owner.memberId ∧ row.createOperationId = operationId →
    e.after P db = db
  claimAgain : ∀ (e : Event) row, row.claim.isSome = true →
    ((∃ id secret input, e.call = .claimBySecret id secret input ∧ db.find id = some row) ∨
      ∃ code normalized input, e.call = .claimByShortCode code input ∧
        normalizeShortCode P code = .ok normalized ∧
        db.findByShortCode (hash P normalized) = some row) → e.after P db = db
  decideAgain : ∀ (e : Event) id operationId row d, e.call.decides = some (id, operationId) →
    db.find id = some row → row.decision = some d → e.after P db = db

theorem Inv.starts (hinv : Inv db) {id : String} (hnone : db.find id = none)
    (hrow : (e.after P db).find id = some row) :
    row.state = .issued ∧ row.claim = none := by
  rcases after_write hinv.keyed e with hsame | hw
  · rw [hsame, hnone] at hrow
    cases hrow
  · generalize e.after P db = db' at hw hrow
    cases hw with
    | inserted new hfree hstate hchecked =>
      rw [find_put] at hrow
      split at hrow
      · cases hrow
        exact ⟨hstate, (claim_of_issued hchecked hstate).1⟩
      · rw [hnone] at hrow
        cases hrow
    | changed old new hfind hchange hchecked =>
      rw [find_put] at hrow
      split at hrow
      · next hid =>
          rw [← hid, hnone] at hfind
          cases hfind
      · rw [hnone] at hrow
        cases hrow
    | approved a hchecked =>
      have hput : a.after.find id =
          if id = a.row.pairingSessionId then some a.approved else db.find id := find_put
      rw [hput] at hrow
      split at hrow
      · next hid =>
          have hfound := a.found
          rw [← hid, hnone] at hfound
          cases hfound
      · rw [hnone] at hrow
        cases hrow

theorem Inv.creates (hinv : Inv db) (e : Event) :
    ((e.after P db).devices = db.devices ∧ (e.after P db).credentials = db.credentials) ∨
      ∃ a : Approval P e db, e.after P db = a.after := by
  rcases after_write hinv.keyed e with hsame | hw
  · rw [hsame]
    exact .inl ⟨rfl, rfl⟩
  · generalize e.after P db = db' at hw
    cases hw with
    | inserted | changed => exact .inl ⟨rfl, rfl⟩
    | approved a hchecked => exact .inr ⟨a, rfl⟩

theorem evolves_along {db' : PairingDb} (hreach : (pairing P).Reachable db)
    (hsteps : (pairing P).Steps db db') :
    ∀ id row, db.find id = some row → ∃ row', db'.find id = some row' ∧ Evolves row row' := by
  refine System.along_run (L := pairing P)
    (R := fun s s' => ∀ id row, s.find id = some row → ∃ row', s'.find id = some row' ∧
      Evolves row row') (fun s id row hrow => ⟨row, hrow, .refl row⟩)
    (fun a b c hab hbc id row hrow => ?_) (fun e s s' hs hstep id row hrow => ?_) hreach hsteps
  · obtain ⟨row₁, h₁, he₁⟩ := hab id row hrow
    obtain ⟨row₂, h₂, he₂⟩ := hbc id row₁ h₁
    exact ⟨row₂, h₂, he₁.trans he₂⟩
  · obtain rfl : s' = e.after P s := hstep
    obtain ⟨row', hrow', hevolves, -⟩ := (inv_reachable hs).after_step e hrow
    exact ⟨row', hrow', hevolves⟩

/-- **The law holds of every state any sequence of calls leaves.** -/
theorem session_law {P : Platform} {db : PairingDb} (h : (pairing P).Reachable db) :
    SessionLaw P db := by
  have hinv := inv_reachable h
  exact {
    evolves := fun db' hsteps => evolves_along h hsteps
    moves := fun e id row hrow => by
      obtain ⟨row', hrow', -, hmove⟩ := hinv.after_step e hrow
      exact ⟨row', hrow', hmove⟩
    starts := fun e id row hnone hrow => hinv.starts hnone hrow
    creates := hinv.creates
    enrolled := hinv.enrolled
    deviceOf := hinv.deviceOf
    credentialOf := hinv.credentialOf
    own := hinv.own
    polls := fun e id attempt secret told db' hcall hanswer => by
      unfold Event.answer at hanswer
      simp only [hcall] at hanswer
      obtain ⟨view, hview, hsame⟩ := of_map hanswer
      cases hsame
      exact (poll_ok (e := e) hinv.keyed hview).2 told rfl
    createAgain := fun e _ _ _ _ _ _ _ _ hcall howner hrow hsame =>
      hinv.create_again hcall howner hrow hsame
    claimAgain := fun e row hclaim hcall => hinv.claim_again hclaim hcall
    decideAgain := fun e id operationId row d hcall hrow hd => hinv.decision_again hcall hrow hd }

/-! ## A session that is consumed -/

namespace Sample

def platform : Platform where
  sha256 := fun text => text.toList.map fun c => UInt8.ofNat c.toNat
  stringify := fun _ => "[]"
  toUpperCase := fun text => text.map Char.toUpper
  parse := fun text =>
    if text = "2026-08-28T10:00:00.000Z" then some 1787911200000
    else if text = "2026-08-28T10:10:00.000Z" then some 1787911800000
    else none
  toISOString := fun _ => "2026-08-28T10:10:00.000Z"

def surroundings : Surroundings where
  requireTeamMember := fun _ _ => .ok ⟨"member_owner0001", .owner⟩
  deploymentTrust := none
  binding := fun _ b => .ok b
  getMember := fun _ => none
  approveBinding := fun _ _ _ => .error "FORBIDDEN"
  grant := fun _ _ _ _ => .ok ()
  admitsSession := fun _ => true
  admitsDevice := fun _ => true
  admitsCredential := fun _ => true
  pairingIds := ["pairing_sample0001"]
  deviceId := "device_sample0001"
  credentialId := "credential_sample0001"

def claimSecret : String := "ABCDEFGHIJKLMNOPQRSTUVWXYZabcdefghijklmnopq"
def pollSecret : String := "0123456789ABCDEFGHIJKLMNOPQRSTUVWXYZabcdefg"

def input : ClaimInput where
  clientAccessSecret := none
  operationId := "op_claim00001"
  pairingAttemptId := "pairattempt_sample0001"
  pollSecret
  device := ⟨"Bob MacBook", "darwin-arm64", "0.3.0-rc.6", none⟩
  trust := none

def event (call : Call) : Event := ⟨call, "2026-08-28T10:00:00.000Z", surroundings⟩

def create : Event := event (.create "user_owner" "team_sample" "op_create00001" claimSecret none)
def claim : Event := event (.claimBySecret "pairing_sample0001" claimSecret input)
def approve : Event :=
  event (.approve "user_owner" "team_sample" "pairing_sample0001" .claimed "op_approve00001")
def poll : Event := event (.poll "pairing_sample0001" "pairattempt_sample0001" pollSecret)

/-- The tables after the four calls. -/
def consumed : PairingDb :=
  poll.after platform (approve.after platform (claim.after platform (create.after platform .empty)))

theorem consumed_reachable : (pairing platform).Reachable consumed := by
  have hcreated : (pairing platform).Reachable (create.after platform .empty) :=
    System.reachable_step (System.reachable_init rfl) rfl
  have hclaimed : (pairing platform).Reachable
      (claim.after platform (create.after platform .empty)) :=
    System.reachable_step hcreated rfl
  have happroved : (pairing platform).Reachable
      (approve.after platform (claim.after platform (create.after platform .empty))) :=
    System.reachable_step hclaimed rfl
  exact System.reachable_step happroved rfl

end Sample

theorem session_law_consumed : SessionLaw Sample.platform Sample.consumed ∧
    (Sample.consumed.find "pairing_sample0001").map PairingSession.state = some .consumed :=
  ⟨session_law Sample.consumed_reachable, by decide +kernel⟩

end AgentRoom.Pairing
