import AgentRoom.Pairing.Sessions

/-!
# What the pairing calls write

A call leaves the tables alone or makes one `Write`: a new session, a step of one session, or
the approval of one session together with its Device and its credential.
-/

namespace AgentRoom.Pairing

open Except (demand require)

/-! ## Calls -/

inductive Call where
  | create (principal teamId operationId claimSecret : String)
    (memberBinding : Option MemberBinding)
  | get (principal teamId pairingSessionId : String)
  | claimBySecret (pairingSessionId claimSecret : String) (input : ClaimInput)
  | claimByShortCode (shortCode : String) (input : ClaimInput)
  | poll (pairingSessionId pairingAttemptId pollSecret : String)
  | approve (principal teamId pairingSessionId : String) (expectedState : PairingState)
      (operationId : String)
  | reject (principal teamId pairingSessionId : String) (expectedState : PairingState)
      (operationId : String) (reason : Option String)
  | cancel (principal teamId pairingSessionId : String) (expectedState : PairingState)
      (operationId : String) (reason : Option String)

/-- A call, at its time, with the rest of the server as it finds it. -/
structure Event where
  call : Call
  now : String
  surroundings : Surroundings

inductive Answer where
  | created (view : Created)
  | claimed (view : Claimed)
  | polled (view : Polled)
  | session (view : OwnerView)

/-- The answer, with the tables the call leaves. -/
def Event.answer (P : Platform) (e : Event) (db : PairingDb) : Except Err (Answer × PairingDb) :=
  let S := e.surroundings
  match e.call with
  | .create principal teamId operationId claimSecret memberBinding =>
    (create P S db principal teamId operationId claimSecret memberBinding e.now).map
      fun r => (.created r.1, r.2)
  | .get principal teamId pairingSessionId =>
    (get P S db principal teamId pairingSessionId e.now).map fun r => (.session r.1, r.2)
  | .claimBySecret pairingSessionId claimSecret input =>
    (claimBySecret P db pairingSessionId claimSecret input e.now).map
      fun r => (.claimed r.1, r.2)
  | .claimByShortCode shortCode input =>
    (claimByShortCode P db shortCode input e.now).map fun r => (.claimed r.1, r.2)
  | .poll pairingSessionId pairingAttemptId pollSecret =>
    (poll P db pairingSessionId pairingAttemptId pollSecret e.now).map
      fun r => (.polled r.1, r.2)
  | .approve principal teamId pairingSessionId expectedState operationId =>
    (approve P S db principal teamId pairingSessionId expectedState operationId e.now).map
      fun r => (.session r.1, r.2)
  | .reject principal teamId pairingSessionId expectedState operationId reason =>
    (reject P S db principal teamId pairingSessionId expectedState operationId reason e.now).map
      fun r => (.session r.1, r.2)
  | .cancel principal teamId pairingSessionId expectedState operationId reason =>
    (cancel P S db principal teamId pairingSessionId expectedState operationId reason e.now).map
      fun r => (.session r.1, r.2)

/-- The tables after the call. -/
def Event.after (P : Platform) (e : Event) (db : PairingDb) : PairingDb :=
  match e.answer P db with
  | .ok (_, db') => db'
  | .error _ => db

/-! ## Writes -/

/-- A step of one session that creates nothing. -/
inductive Change (row : PairingSession) : PairingSession → Prop where
  | expired (h : row.state.isPreDecision = true) : Change row { row with state := .expired }
  | claimed (c : Claim) (h : row.state = .issued) :
      Change row { row with state := .claimed, claim := some c }
  | consumed (now : String) (h : row.state = .approved) :
      Change row { row with state := .consumed, consumedAt := some now }
  | rejected (d : Decision) (h : row.state = .claimed) :
      Change row { row with state := .rejected, decision := some d }
  | canceled (d : Decision) (h : row.state.isPreDecision = true) :
      Change row { row with state := .canceled, decision := some d }

/-- An approval: who made it, of what, and what it created. -/
structure Approval (P : Platform) (e : Event) (db : PairingDb) where
  principal : String
  operationId : String
  owner : MemberPrincipal
  row : PairingSession
  claim : Claim
  deviceOwnerId : String
  isApprove : e.call =
    .approve principal row.teamId row.pairingSessionId .claimed operationId
  isOwner : e.surroundings.requireTeamMember principal row.teamId = .ok owner ∧
    owner.role = .owner
  found : db.find row.pairingSessionId = some row
  claimed : row.state = .claimed
  timely : unexpired P row e.now = true
  bound : row.claim = some claim
  deviceFree : db.devices.get e.surroundings.deviceId = none
  credentialFree : db.credentials.get e.surroundings.credentialId = none

namespace Approval

variable {P : Platform} {e : Event} {db : PairingDb} (a : Approval P e db)

def enrolment : Enrolment := ⟨e.surroundings.deviceId, e.surroundings.credentialId, a.deviceOwnerId⟩

def device : DeviceRecord := newDevice e.surroundings a.row a.claim a.deviceOwnerId e.now

def credential : CredentialRecord := newCredential e.surroundings a.claim e.now

def approved : PairingSession :=
  { a.row with
    state := .approved
    decision := some ⟨a.operationId, .approve, .claimed, a.owner.memberId, none, e.now⟩
    enrolment := some a.enrolment }

/-- The tables after it. -/
def after : PairingDb where
  sessions := db.sessions.put a.row.pairingSessionId a.approved
  devices := db.devices.put e.surroundings.deviceId a.device
  credentials := db.credentials.put e.surroundings.credentialId a.credential

end Approval

/-- What one call writes. -/
inductive Write (P : Platform) (e : Event) (db : PairingDb) : PairingDb → Prop where
  | inserted (row : PairingSession) (hfree : db.find row.pairingSessionId = none)
      (hstate : row.state = .issued) (hchecked : row.checked = true) :
      Write P e db { db with sessions := db.sessions.put row.pairingSessionId row }
  | changed (row row' : PairingSession) (hfind : db.find row.pairingSessionId = some row)
      (hchange : Change row row') (hchecked : row'.checked = true) :
      Write P e db { db with sessions := db.sessions.put row.pairingSessionId row' }
  | approved (a : Approval P e db) (hchecked : a.approved.checked = true) : Write P e db a.after

section Calls

variable {P : Platform} {S : Surroundings} {db db' : PairingDb} {row row' : PairingSession}
  {now : String} {e : Event} {id : String}

theorem update_ok {state : PairingState} {f : PairingSession → PairingSession}
    (h : db.update id state f = .ok (some db')) :
    ∃ row, db.find id = some row ∧ row.state = state ∧ (f row).checked = true ∧
      db' = { db with sessions := db.sessions.put id (f row) } := by
  unfold PairingDb.update at h
  split at h
  · cases h
  · next row hfind =>
      split at h
      · cases h
      · next hstate =>
          dsimp only at h
          split at h
          · next hok =>
              cases h
              exact ⟨row, hfind, not_not.mp hstate, hok.1, rfl⟩
          · cases h

/-- A session is left as it is, or it was before a decision, its time was over, and it is expired
now. -/
theorem expire_ok (hfind : db.find row.pairingSessionId = some row)
    (h : expire P db row now = .ok (row', db')) :
    (row' = row ∧ db' = db ∧ (row.state.isPreDecision = true → unexpired P row now = true)) ∨
    (row.state.isPreDecision = true ∧ row' = { row with state := .expired } ∧
      row'.checked = true ∧
      db' = { db with sessions := db.sessions.put row.pairingSessionId row' }) := by
  unfold expire at h
  split at h
  · next hkept =>
      cases h
      refine .inl ⟨rfl, rfl, fun hpre => ?_⟩
      exact hkept.resolve_left fun hnot => hnot hpre
  · next hover =>
      obtain ⟨hpre, -⟩ := not_or.mp hover
      obtain ⟨expired, hupdate, h⟩ := Except.of_bind h
      cases expired with
      | none =>
        unfold PairingDb.update at hupdate
        rw [hfind] at hupdate
        dsimp only at hupdate
        rw [if_neg (not_not.mpr rfl)] at hupdate
        split at hupdate <;> cases hupdate
      | some db'' =>
        obtain ⟨found, hfound, -, hchecked, rfl⟩ := update_ok hupdate
        rw [hfind] at hfound
        cases hfound
        cases h
        exact .inr ⟨not_not.mp hpre, rfl, hchecked, rfl⟩

/-! ## Creating -/

variable {teamId claimSecret : String} {view : Created} {trust : Option TrustDescriptor}
  {binding : Option MemberBinding}

theorem recreated_ok (hfind : db.find row.pairingSessionId = some row)
    (h : recreated P db row teamId claimSecret trust binding now = .ok (view, db')) : db' = db := by
  unfold recreated at h
  obtain ⟨-, h⟩ := Except.of_require h
  obtain ⟨⟨current, db₁⟩, hexpire, h⟩ := Except.of_bind h
  obtain ⟨hissued, h⟩ := Except.of_require h
  cases h
  rcases expire_ok hfind hexpire with ⟨-, hsame, -⟩ | ⟨-, hexpired, -, -⟩
  · exact hsame
  · rw [hexpired] at hissued
    cases hissued

theorem insert_ok (h : db.insert S row = .ok db') :
    db.find row.pairingSessionId = none ∧ row.checked = true ∧
      db' = { db with sessions := db.sessions.put row.pairingSessionId row } := by
  unfold PairingDb.insert at h
  split at h
  · cases h
  · next hfree =>
      split at h
      · cases h
      · split at h
        · cases h
        · next hok =>
            cases h
            simp only [not_or, not_not] at hok
            exact ⟨by simpa using hfree, hok.2.1, rfl⟩

/-- Sessions are stored under their own identifiers. -/
def Keyed (db : PairingDb) : Prop :=
  ∀ id row, db.sessions.get id = some row → row.pairingSessionId = id

theorem Keyed.find_of_mem (hkeyed : Keyed db) (h : row ∈ db.sessions.rows) :
    db.find row.pairingSessionId = some row := by
  obtain ⟨id, hid⟩ := Table.mem_rows.mp h
  unfold PairingDb.find
  rw [hkeyed id row hid]
  exact hid

variable {operationId : String}

theorem allocate_ok {owner : MemberPrincipal} {expiresAt : String} {ids : List String}
    (hkeyed : Keyed db)
    (h : allocate P S db owner teamId operationId claimSecret trust binding now expiresAt ids =
      .ok (view, db')) : db' = db ∨ Write P e db db' := by
  induction ids with
  | nil => cases h
  | cons id rest ih =>
    unfold allocate at h
    dsimp only at h
    split at h
    · next inserted hinsert =>
        cases h
        obtain ⟨hfree, hchecked, rfl⟩ := insert_ok hinsert
        exact .inr (.inserted _ hfree rfl hchecked)
    · split at h
      · next raced hraced =>
          exact .inl (recreated_ok (hkeyed.find_of_mem (List.mem_of_find?_eq_some hraced)) h)
      · split at h
        · exact ih h
        · cases h

variable {principal : String}

theorem create_ok {memberBinding : Option MemberBinding} (hkeyed : Keyed db)
    (h : create P S db principal teamId operationId claimSecret memberBinding now =
      .ok (view, db')) : db' = db ∨ Write P e db db' := by
  unfold create at h
  obtain ⟨owner, -, h⟩ := Except.of_bind h
  obtain ⟨-, h⟩ := Except.of_require h
  obtain ⟨binding, -, h⟩ := Except.of_bind h
  split at h
  · next existing hexisting =>
      exact .inl (recreated_ok (hkeyed.find_of_mem (List.mem_of_find?_eq_some hexisting)) h)
  · obtain ⟨start, -, h⟩ := Except.of_demand h
    exact allocate_ok hkeyed h

theorem write_of_expire (hfind : db.find row.pairingSessionId = some row)
    (h : expire P db row now = .ok (row', db')) : db' = db ∨ Write P e db db' := by
  rcases expire_ok hfind h with ⟨-, hsame, -⟩ | ⟨hpre, rfl, hchecked, rfl⟩
  · exact .inl hsame
  · exact .inr (.changed row _ hfind (.expired hpre) hchecked)

theorem findOwnerSession_ok (hkeyed : Keyed db) (h : db.findOwnerSession teamId id = some row) :
    db.find row.pairingSessionId = some row ∧ row.teamId = teamId ∧ row.pairingSessionId = id := by
  obtain ⟨hfind, hteam⟩ := Option.filter_eq_some_iff.mp h
  have hid := hkeyed id row hfind
  subst hid
  exact ⟨hfind, by simpa using hteam, rfl⟩

theorem get_ok {view : OwnerView} (hkeyed : Keyed db)
    (h : get P S db principal teamId id now = .ok (view, db')) : db' = db ∨ Write P e db db' := by
  unfold get at h
  obtain ⟨_, -, h⟩ := Except.of_bind h
  obtain ⟨-, h⟩ := Except.of_require h
  obtain ⟨found, hfound, h⟩ := Except.of_demand h
  obtain ⟨⟨current, db₁⟩, hexpire, h⟩ := Except.of_bind h
  cases h
  exact write_of_expire (findOwnerSession_ok hkeyed hfound).1 hexpire

/-! ## Claiming -/

/-- A claim that returned found its session bound by it, or bound an issued one. -/
theorem claim_ok {located : Option PairingSession} {input : ClaimInput} {allow : Bool}
    {view : Claimed}
    (hlocated : ∀ row, located = some row → db.find row.pairingSessionId = some row)
    (h : claim P db located input now allow = .ok (view, db')) :
    ∃ row, located = some row ∧ ((row.claim.isSome ∧ db' = db) ∨
      (row.state = .issued ∧ Write P e db db')) := by
  unfold claim at h
  obtain ⟨normalized, -, h⟩ := Except.of_bind h
  obtain ⟨found, hfound, h⟩ := Except.of_demand h
  have hfind := hlocated found hfound
  obtain ⟨⟨row, db₁⟩, hexpire, h⟩ := Except.of_bind h
  obtain ⟨-, h⟩ := Except.of_require h
  obtain ⟨-, h⟩ := Except.of_require h
  refine ⟨found, hfound, ?_⟩
  split at h
  · next hexact =>
      obtain ⟨hstate, h⟩ := Except.of_require h
      obtain ⟨_, -, h⟩ := Except.of_bind h
      cases h
      rcases expire_ok hfind hexpire with ⟨rfl, rfl, -⟩ | ⟨-, hexpired, -, -⟩
      · obtain ⟨c, hc, -⟩ := hexact
        exact .inl ⟨by rw [hc]; rfl, rfl⟩
      · rw [hexpired] at hstate
        exact absurd rfl hstate
  · obtain ⟨hissued, h⟩ := Except.of_require h
    obtain ⟨-, h⟩ := Except.of_require h
    obtain ⟨updated, hupdate, h⟩ := Except.of_bind h
    obtain ⟨db₂, rfl, h⟩ := Except.of_demand h
    cases h
    rcases expire_ok hfind hexpire with ⟨rfl, rfl, -⟩ | ⟨-, hexpired, -, -⟩
    · obtain ⟨stored, hstored, hstate, hchecked, rfl⟩ := update_ok hupdate
      rw [hfind] at hstored
      cases hstored
      exact .inr ⟨hissued, .changed row _ hfind (.claimed _ hissued) hchecked⟩
    · rw [hexpired] at hissued
      cases hissued

theorem claimBySecret_ok {id claimSecret : String} {input : ClaimInput} {view : Claimed}
    (hkeyed : Keyed db) (h : claimBySecret P db id claimSecret input now = .ok (view, db')) :
    ∃ row, db.find id = some row ∧ ((row.claim.isSome ∧ db' = db) ∨
      (row.state = .issued ∧ Write P e db db')) := by
  unfold claimBySecret at h
  obtain ⟨-, h⟩ := Except.of_require h
  obtain ⟨-, h⟩ := Except.of_require h
  have hlocated : ∀ row, (db.find id).filter (fun row => hash P claimSecret = row.claimSecretHash) =
      some row → db.find row.pairingSessionId = some row := by
    intro row hrow
    obtain ⟨hfind, -⟩ := Option.filter_eq_some_iff.mp hrow
    rw [hkeyed id row hfind]
    exact hfind
  obtain ⟨row, hrow, hcases⟩ := claim_ok hlocated h
  exact ⟨row, (Option.filter_eq_some_iff.mp hrow).1, hcases⟩

theorem claimByShortCode_ok {shortCode : String} {input : ClaimInput} {view : Claimed}
    (hkeyed : Keyed db) (h : claimByShortCode P db shortCode input now = .ok (view, db')) :
    ∃ normalized row, normalizeShortCode P shortCode = .ok normalized ∧
      db.findByShortCode (hash P normalized) = some row ∧ ((row.claim.isSome ∧ db' = db) ∨
      (row.state = .issued ∧ Write P e db db')) := by
  unfold claimByShortCode at h
  obtain ⟨normalized, hnormalized, h⟩ := Except.of_bind h
  obtain ⟨row, hrow, hcases⟩ := claim_ok
    (fun row hrow => hkeyed.find_of_mem (List.mem_of_find?_eq_some hrow)) h
  exact ⟨normalized, row, hnormalized, hrow, hcases⟩

/-! ## Polling -/

/-- A poll is answered by the session its proof is bound to. -/
theorem poll_ok {id attempt secret : String} {view : Polled} (hkeyed : Keyed db)
    (h : poll P db id attempt secret now = .ok (view, db')) :
    (db' = db ∨ Write P e db db') ∧ ∀ told, view = .consumed told →
      ∃ row c enrolment, db'.find id = some row ∧ row.state = .consumed ∧ row.claim = some c ∧
        c.pairingAttemptId = attempt ∧ hash P secret = c.pollSecretHash ∧
        row.enrolment = some enrolment ∧ told.deviceId = enrolment.deviceId := by
  unfold poll at h
  iterate 3 obtain ⟨-, h⟩ := Except.of_require h
  obtain ⟨found, hfound, hrest⟩ := Except.of_demand h
  clear h
  -- the proof is checked before the state is told
  obtain rfl := hkeyed id found hfound
  obtain ⟨c, hc, hrest⟩ := Except.of_demand hrest
  obtain ⟨⟨hattempt, hproof⟩, hrest⟩ := Except.of_require hrest
  obtain ⟨⟨row, db₁⟩, hexpire, h⟩ := Except.of_bind hrest
  clear hrest
  have hwrite : db₁ = db ∨ Write P e db db₁ := write_of_expire hfound hexpire
  dsimp only at h
  split at h
  · next hstate =>
      cases h
      exact ⟨hwrite, nofun⟩
  · next hstate =>
      obtain ⟨updated, hupdate, hupdated⟩ := Except.of_bind h
      obtain ⟨db₂, rfl, hanswered⟩ := Except.of_demand hupdated
      obtain ⟨answer, hanswer, hend⟩ := Except.of_bind hanswered
      cases hend
      rcases expire_ok hfound hexpire with ⟨rfl, rfl, -⟩ | ⟨-, hexpired, -, -⟩
      · -- approved: this poll consumes the session
        obtain ⟨stored, hstored, -, hchecked, rfl⟩ := update_ok hupdate
        rw [hfound] at hstored
        cases hstored
        refine ⟨.inr (.changed row _ hfound (.consumed now hstate) hchecked), fun told htold => ?_⟩
        obtain ⟨c', hc', hanswer⟩ := Except.of_demand hanswer
        obtain ⟨enrolment, henrolment, hanswer⟩ := Except.of_demand hanswer
        cases hanswer
        cases htold
        exact ⟨_, c, enrolment, Table.get_put_self _ _ _, rfl, hc, hattempt, hproof, henrolment,
          rfl⟩
      · rw [hexpired] at hstate
        cases hstate
  · next hstate =>
      obtain ⟨answer, hanswer, hend⟩ := Except.of_bind h
      cases hend
      rcases expire_ok hfound hexpire with ⟨rfl, rfl, -⟩ | ⟨-, hexpired, -, -⟩
      · -- consumed before: the same answer
        refine ⟨.inl rfl, fun told htold => ?_⟩
        obtain ⟨c', hc', hanswer⟩ := Except.of_demand hanswer
        obtain ⟨enrolment, henrolment, hanswer⟩ := Except.of_demand hanswer
        cases hanswer
        cases htold
        exact ⟨row, c, enrolment, hfound, hstate, hc, hattempt, hproof, henrolment, rfl⟩
      · rw [hexpired] at hstate
        cases hstate
  · cases h
  · cases h
    exact ⟨hwrite, nofun⟩

/-! ## Deciding -/

theorem requireOwner_ok {member : MemberPrincipal}
    (h : requireOwner S principal teamId = .ok member) :
    S.requireTeamMember principal teamId = .ok member ∧ member.role = .owner := by
  unfold requireOwner at h
  obtain ⟨found, hfound, h⟩ := Except.of_bind h
  obtain ⟨howner, h⟩ := Except.of_require h
  cases h
  exact ⟨hfound, howner⟩

theorem enrol_ok {device : DeviceRecord} {credential : CredentialRecord}
    (h : db.enrol S device credential = .ok db') :
    db.devices.get device.deviceId = none ∧
      db.credentials.get credential.credentialId = none ∧
      db' = { db with
        devices := db.devices.put device.deviceId device
        credentials := db.credentials.put credential.credentialId credential } := by
  unfold PairingDb.enrol at h
  obtain ⟨⟨hdevice, -⟩, h⟩ := Except.of_require h
  obtain ⟨⟨hcredential, -⟩, h⟩ := Except.of_require h
  cases h
  exact ⟨hdevice, hcredential, rfl⟩

/-- What an approval of a claimed session leaves. -/
theorem approveRow_ok {memberId : String} {approved : PairingSession}
    (hfind : db.find row.pairingSessionId = some row)
    (h : approveRow S db row operationId memberId now = .ok (approved, db')) :
    ∃ claim deviceOwnerId, row.claim = some claim ∧
      db.devices.get S.deviceId = none ∧ db.credentials.get S.credentialId = none ∧
      approved = { row with
        state := .approved
        decision := some ⟨operationId, .approve, .claimed, memberId, none, now⟩
        enrolment := some ⟨S.deviceId, S.credentialId, deviceOwnerId⟩ } ∧
      approved.checked = true ∧
      db' = {
        sessions := db.sessions.put row.pairingSessionId approved
        devices := db.devices.put S.deviceId (newDevice S row claim deviceOwnerId now)
        credentials := db.credentials.put S.credentialId (newCredential S claim now) } := by
  unfold approveRow at h
  obtain ⟨claim, hclaim, h⟩ := Except.of_demand h
  obtain ⟨owner, -, h⟩ := Except.of_bind h
  obtain ⟨db₁, henrol, h⟩ := Except.of_bind h
  obtain ⟨hdevice, hcredential, rfl⟩ := enrol_ok henrol
  obtain ⟨_, -, hgranted⟩ := Except.of_bind h
  obtain ⟨updated, hupdate, hupdated⟩ := Except.of_bind hgranted
  obtain ⟨db₂, rfl, hend⟩ := Except.of_demand hupdated
  cases hend
  obtain ⟨stored, hstored, -, hchecked, rfl⟩ := update_ok hupdate
  have hsame : db.find row.pairingSessionId = some stored := hstored
  rw [hfind] at hsame
  cases hsame
  exact ⟨claim, owner, hclaim, hdevice, hcredential, rfl, hchecked, rfl⟩

theorem expected_of_checked {d : Decision} (h : row.checked = true) (hd : row.decision = some d) :
    d.expectedState.isPreDecision = true := by
  simp only [PairingSession.checked, Bool.and_eq_true, hd, Option.all_some] at h
  exact h.2

/-- The decision a reject or a cancel records. -/
def newDecision (operationId : String) (action : DecisionAction) (expectedState : PairingState)
    (memberId : String) (reason : Option String) (now : String) : Decision :=
  ⟨operationId, action, expectedState, memberId, reason, now⟩

variable {action : DecisionAction} {expectedState : PairingState} {reason : Option String}

/-- A decision that returned found itself recorded, or was made. -/
theorem decide_ok {view : OwnerView}
    (h : decide P S db principal teamId id action expectedState operationId reason now =
      .ok (view, db')) :
    ∃ owner found row db₁, requireOwner S principal teamId = .ok owner ∧
      (action = .cancel ∨ expectedState = .claimed) ∧
      db.findOwnerSession teamId id = some found ∧ expire P db found now = .ok (row, db₁) ∧
      ((∃ d, row.decision = some d ∧ d.operationId = operationId ∧ db' = db₁) ∨
        row.state = expectedState ∧
          (action = .approve ∧ (∃ approved,
            approveRow S db₁ row operationId owner.memberId now = .ok (approved, db')) ∨
          action ≠ .approve ∧ db₁.update id expectedState (fun r => { r with
            state := action.nextState
            decision := some (newDecision operationId action expectedState owner.memberId reason
              now) }) = .ok (some db'))) := by
  unfold decide at h
  obtain ⟨owner, howner, h⟩ := Except.of_bind h
  obtain ⟨-, h⟩ := Except.of_require h
  obtain ⟨-, h⟩ := Except.of_require h
  obtain ⟨hexpected, h⟩ := Except.of_require h
  obtain ⟨found, hfound, h⟩ := Except.of_demand h
  obtain ⟨⟨row, db₁⟩, hexpire, h⟩ := Except.of_bind h
  refine ⟨owner, found, row, db₁, howner, hexpected, hfound, hexpire, ?_⟩
  -- a decision that was recorded is answered again
  rcases hrecorded : row.decision.filter (fun d => Decidable.decide (d.operationId = operationId))
    with _ | d
  · simp only [hrecorded] at h
    obtain ⟨hstate, h⟩ := Except.of_require h
    refine .inr ⟨hstate, ?_⟩
    split at h
    · next haction =>
        obtain ⟨⟨approved, db₂⟩, happrove, h⟩ := Except.of_bind h
        cases h
        exact .inl ⟨haction, approved, happrove⟩
    · next haction =>
        obtain ⟨updated, hupdate, h⟩ := Except.of_bind h
        obtain ⟨db₂, rfl, h⟩ := Except.of_demand h
        cases h
        exact .inr ⟨haction, hupdate⟩
  · simp only [hrecorded] at h
    obtain ⟨-, h⟩ := Except.of_require h
    cases h
    obtain ⟨hd, hid⟩ := Option.filter_eq_some_iff.mp hrecorded
    exact .inl ⟨d, hd, by simpa using hid, rfl⟩

theorem decide_write {view : OwnerView} (hkeyed : Keyed db)
    (hcall : action = .approve → e.call = .approve principal teamId id expectedState operationId)
    (h : decide P e.surroundings db principal teamId id action expectedState operationId reason
      e.now = .ok (view, db')) : db' = db ∨ Write P e db db' := by
  obtain ⟨owner, found, row, db₁, howner, hexpected, hfound, hexpire, hdone⟩ := decide_ok h
  obtain ⟨hfind, rfl, rfl⟩ := findOwnerSession_ok hkeyed hfound
  rcases hdone with ⟨d, -, -, rfl⟩ | ⟨hstate, hmade⟩
  · exact write_of_expire hfind hexpire
  rcases expire_ok hfind hexpire with ⟨rfl, rfl, htimely⟩ | ⟨-, rfl, -, -⟩
  · rcases hmade with ⟨rfl, approved, happrove⟩ | ⟨haction, hupdate⟩
    · have hclaimed : row.state = .claimed := hstate.trans (hexpected.resolve_left nofun)
      obtain ⟨claim, deviceOwnerId, hclaim, hdevice, hcredential, rfl, hchecked, rfl⟩ :=
        approveRow_ok hfind happrove
      have hcall := hcall rfl
      rw [← hstate, hclaimed] at hcall
      exact .inr (.approved ⟨principal, operationId, owner, row, claim, deviceOwnerId, hcall,
        requireOwner_ok howner, hfind, hclaimed, htimely (by rw [hclaimed]; rfl), hclaim,
        hdevice, hcredential⟩ hchecked)
    · obtain ⟨stored, hstored, -, hchecked, rfl⟩ := update_ok hupdate
      rw [hfind] at hstored
      cases hstored
      cases action with
      | approve => exact absurd rfl haction
      | reject =>
        have hclaimed : row.state = .claimed := hstate.trans (hexpected.resolve_left nofun)
        exact .inr (.changed row _ hfind (.rejected _ hclaimed) hchecked)
      | cancel =>
        have hpre : row.state.isPreDecision = true := by
          rw [hstate]
          exact expected_of_checked hchecked rfl
        exact .inr (.changed row _ hfind (.canceled _ hpre) hchecked)
  · -- the session is expired now, which no decision that the table takes expected
    obtain rfl : expectedState = .expired := hstate.symm
    rcases hmade with ⟨rfl, -⟩ | ⟨-, hupdate⟩
    · cases hexpected.resolve_left nofun
    · obtain ⟨stored, -, -, hchecked, -⟩ := update_ok hupdate
      cases expected_of_checked hchecked rfl

/-! ## Every call -/

variable {answer : Answer}

theorem of_map {α : Type} {x : Except Err (α × PairingDb)} {f : α → Answer}
    (h : x.map (fun r => (f r.1, r.2)) = .ok (answer, db')) :
    ∃ a, x = .ok (a, db') ∧ answer = f a := by
  cases x with
  | error e => cases h
  | ok r =>
    cases h
    exact ⟨r.1, rfl, rfl⟩

/-- **A call leaves the tables alone or makes one write.** -/
theorem answer_write (hkeyed : Keyed db) (h : e.answer P db = .ok (answer, db')) :
    db' = db ∨ Write P e db db' := by
  unfold Event.answer at h
  split at h <;> obtain ⟨view, hview, -⟩ := of_map h
  · exact create_ok hkeyed hview
  · exact get_ok hkeyed hview
  · obtain ⟨row, -, ⟨-, hsame⟩ | ⟨-, hwrite⟩⟩ := claimBySecret_ok (e := e) hkeyed hview
    · exact .inl hsame
    · exact .inr hwrite
  · obtain ⟨_, row, -, -, ⟨-, hsame⟩ | ⟨-, hwrite⟩⟩ := claimByShortCode_ok (e := e) hkeyed hview
    · exact .inl hsame
    · exact .inr hwrite
  · exact (poll_ok hkeyed hview).1
  · next hcall => exact decide_write hkeyed (fun _ => hcall) hview
  · obtain ⟨reason, -, hview⟩ := Except.of_bind hview
    refine decide_write hkeyed ?_ hview
    nofun
  · obtain ⟨reason, -, hview⟩ := Except.of_bind hview
    refine decide_write hkeyed ?_ hview
    nofun

theorem after_write (hkeyed : Keyed db) (e : Event) :
    e.after P db = db ∨ Write P e db (e.after P db) := by
  unfold Event.after
  split
  · next h => exact answer_write hkeyed h
  · exact .inl rfl

end Calls

end AgentRoom.Pairing
