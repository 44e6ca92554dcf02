import AgentRoom.Connections.Registry
import AgentRoom.Consent.GrantLaw

/-!
# The law of the connection registry

A connection is live from its registration to the entry of the log that ends it: it is closed by a
replacement or a revocation, or removed. The registered connections are the live ones, so what is
sent and recorded is sent and recorded under a live connection.
-/

namespace AgentRoom.Connections

open Consent (Dates ExecutionGrantSummary GovernedCapability exactGrantMatchesManifest)
open Execution (Manifest)
open Workspace (Platform)

variable {Socket : Type}

def Event.ends (id : ConnectionId) : Event Socket → Prop
  | .closed id' _ _ | .removed id' => id' = id
  | _ => False

def Event.id : Event Socket → ConnectionId
  | .registered _ id _ _ | .closed id _ _ | .removed id | .recorded id _ _ | .sent id _ _ => id

/-- The connection has not ended. -/
def Live (log : List (Event Socket)) (id : ConnectionId) : Prop := ∀ e ∈ log, ¬ e.ends id

structure Inv (r : Registry Socket) : Prop where
  numbered : ∀ e ∈ r.log, e.id < r.next
  registered : ∀ d c, r.connections d = some c → .registered d c.id c.epoch c.socket ∈ r.log
  live : ∀ d c, r.connections d = some c → Live r.log c.id
  current : ∀ d id epoch socket, .registered d id epoch socket ∈ r.log → Live r.log id →
    ∃ c, r.connections d = some c ∧ c.id = id
  unique : ∀ d d' id epoch epoch' socket socket', .registered d id epoch socket ∈ r.log →
    .registered d' id epoch' socket' ∈ r.log → d = d' ∧ epoch = epoch' ∧ socket = socket'
  ended : r.log.Pairwise fun e e' => ∀ id, e.ends id → e'.id ≠ id
  bound : ∀ id socket message, .sent id socket message ∈ r.log →
    ∃ d epoch, .registered d id epoch socket ∈ r.log
  capability : ∀ d c agentId capability, r.connections d = some c →
    c.governedExecutionAgents agentId = some capability → .recorded c.id agentId capability ∈ r.log

theorem inv_new : Inv (Registry.new : Registry Socket) where
  numbered _ he := absurd he List.not_mem_nil
  registered _ _ hc := absurd hc.symm (Option.some_ne_none _)
  live _ _ hc := absurd hc.symm (Option.some_ne_none _)
  current _ _ _ _ hin := absurd hin List.not_mem_nil
  unique _ _ _ _ _ _ _ hin := absurd hin List.not_mem_nil
  ended := .nil
  bound _ _ _ hin := absurd hin List.not_mem_nil
  capability _ _ _ _ hc := absurd hc.symm (Option.some_ne_none _)

variable {e : Event Socket}

theorem Event.id_of_ends {id : ConnectionId} (h : e.ends id) : e.id = id := by
  cases e <;> first | exact h | exact h.elim

theorem live_append {log : List (Event Socket)} {id : ConnectionId} :
    Live (log ++ [e]) id ↔ Live log id ∧ ¬ e.ends id := by
  simp [Live, or_imp, forall_and]

theorem mem_log_append {log : List (Event Socket)} {e' : Event Socket} :
    e' ∈ log ++ [e] ↔ e' ∈ log ∨ e' = e := by
  simp

variable {r : Registry Socket} {d : String} {c : Connection Socket}

theorem Inv.ended_append (h : Inv r) (hc : r.connections d = some c) (hid : e.id = c.id) :
    (r.log ++ [e]).Pairwise fun e e' => ∀ id, e.ends id → e'.id ≠ id := by
  refine List.pairwise_append.mpr ⟨h.ended, List.pairwise_singleton _ _, fun e₁ he₁ e₂ he₂ => ?_⟩
  obtain rfl := List.mem_singleton.mp he₂
  rintro id hends rfl
  exact h.live d c hc e₁ he₁ (hid ▸ hends)

theorem Inv.id_lt (h : Inv r) (hc : r.connections d = some c) : c.id < r.next :=
  h.numbered _ (h.registered d c hc)

theorem Inv.device_eq (h : Inv r) (hc : r.connections d = some c) {d' : String}
    {c' : Connection Socket} (hc' : r.connections d' = some c') (hid : c'.id = c.id) : d' = d :=
  (h.unique _ _ _ _ _ _ _ (h.registered d' c' hc') (hid ▸ h.registered d c hc)).1

/-- **A connection ends.** -/
theorem Inv.ends (h : Inv r) (hc : r.connections d = some c) {e : Event Socket}
    (hends : e.ends c.id) :
    Inv { r with connections := Function.update r.connections d none, log := r.log ++ [e] } := by
  have hid := Event.id_of_ends hends
  -- the other Devices keep their connections
  have hother : ∀ d' c', Function.update r.connections d none d' = some c' →
      d' ≠ d ∧ r.connections d' = some c' := by
    intro d' c' hc'
    by_cases heq : d' = d
    · subst heq
      simp at hc'
    · exact ⟨heq, by simpa [heq] using hc'⟩
  -- the new entry is an end, and no registration
  have hold : ∀ {e' : Event Socket}, e' ∈ r.log ++ [e] → (∀ id, ¬ e'.ends id) → e' ∈ r.log := by
    intro e' he' hquiet
    obtain he' | rfl := mem_log_append.mp he'
    · exact he'
    · exact absurd hends (hquiet _)
  constructor
  · intro e' he'
    obtain he' | rfl := mem_log_append.mp he'
    · exact h.numbered e' he'
    · exact hid ▸ h.id_lt hc
  · intro d' c' hc'
    exact List.mem_append_left _ (h.registered d' c' (hother d' c' hc').2)
  · intro d' c' hc'
    obtain ⟨hne, hc'⟩ := hother d' c' hc'
    refine live_append.mpr ⟨h.live d' c' hc', fun hends' => hne ?_⟩
    exact h.device_eq hc hc' ((Event.id_of_ends hends').symm.trans hid)
  · intro d' id epoch socket hin hlive
    obtain ⟨hlive, hnot⟩ := live_append.mp hlive
    have hin := hold hin fun _ => not_false
    obtain ⟨c', hc', rfl⟩ := h.current d' id epoch socket hin hlive
    refine ⟨c', ?_, rfl⟩
    have hne : d' ≠ d := by
      rintro rfl
      obtain rfl := Option.mem_unique hc hc'
      exact hnot hends
    simpa [hne] using hc'
  · intro d' d'' id epoch epoch' socket socket' hin hin'
    exact h.unique _ _ _ _ _ _ _ (hold hin fun _ => not_false) (hold hin' fun _ => not_false)
  · exact h.ended_append hc hid
  · intro id socket message hin
    obtain ⟨d', epoch, hregistered⟩ := h.bound id socket message (hold hin fun _ => not_false)
    exact ⟨d', epoch, List.mem_append_left _ hregistered⟩
  · intro d' c' agentId capability hc' hcapability
    exact List.mem_append_left _
      (h.capability d' c' agentId capability (hother d' c' hc').2 hcapability)

/-- **A connection is registered** for a Device that has none. -/
theorem Inv.registers (h : Inv r) (hnone : r.connections d = none) (new : Connection Socket)
    (hid : new.id = r.next) (hagents : ∀ agentId, new.governedExecutionAgents agentId = none) :
    Inv { connections := Function.update r.connections d (some new)
          next := r.next + 1
          log := r.log ++ [.registered d r.next new.epoch new.socket] } := by
  -- the Device had no connection, and now has this one
  have hcases : ∀ d' c', Function.update r.connections d (some new) d' = some c' →
      (d' = d ∧ c' = new) ∨ (d' ≠ d ∧ r.connections d' = some c') := by
    intro d' c' hc'
    by_cases heq : d' = d
    · subst heq
      rw [Function.update_self] at hc'
      exact .inl ⟨rfl, (Option.some.inj hc').symm⟩
    · exact .inr ⟨heq, by simpa [heq] using hc'⟩
  have hlive : ∀ id, Live (r.log ++ [.registered d r.next new.epoch new.socket]) id ↔
      Live r.log id := fun id => by rw [live_append]; exact and_iff_left not_false
  -- the number is new, so no entry is about it
  have hlt : ∀ {e : Event Socket}, e ∈ r.log → e.id ≠ r.next :=
    fun he => Nat.ne_of_lt (h.numbered _ he)
  constructor
  · intro e he
    obtain he | rfl := mem_log_append.mp he
    · exact Nat.lt_succ_of_lt (h.numbered e he)
    · exact Nat.lt_succ_self _
  · intro d' c' hc'
    obtain ⟨rfl, rfl⟩ | ⟨-, hc'⟩ := hcases d' c' hc'
    · exact mem_log_append.mpr (.inr (by rw [hid]))
    · exact List.mem_append_left _ (h.registered d' c' hc')
  · intro d' c' hc'
    obtain ⟨rfl, rfl⟩ | ⟨-, hc'⟩ := hcases d' c' hc'
    · exact (hlive _).mpr fun e he hends => hlt he ((Event.id_of_ends hends).trans hid)
    · exact (hlive _).mpr (h.live d' c' hc')
  · intro d' id epoch socket hin hid'
    obtain hin | heq := mem_log_append.mp hin
    · obtain ⟨c', hc', rfl⟩ := h.current d' id epoch socket hin ((hlive _).mp hid')
      have hne : d' ≠ d := by
        rintro rfl
        simp [hnone] at hc'
      exact ⟨c', by simpa [hne] using hc', rfl⟩
    · obtain ⟨rfl, rfl, -, -⟩ := Event.registered.inj heq
      exact ⟨new, Function.update_self _ _ _, hid⟩
  · intro d' d'' id epoch epoch' socket socket' hin hin'
    -- a number is registered once
    obtain hin | heq := mem_log_append.mp hin <;> obtain hin' | heq' := mem_log_append.mp hin'
    · exact h.unique _ _ _ _ _ _ _ hin hin'
    · obtain ⟨-, rfl, -, -⟩ := Event.registered.inj heq'
      exact absurd rfl (hlt hin)
    · obtain ⟨-, rfl, -, -⟩ := Event.registered.inj heq
      exact absurd rfl (hlt hin')
    · obtain ⟨rfl, -, rfl, rfl⟩ := Event.registered.inj heq
      obtain ⟨rfl, -, rfl, rfl⟩ := Event.registered.inj heq'
      exact ⟨rfl, rfl, rfl⟩
  · refine List.pairwise_append.mpr ⟨h.ended, List.pairwise_singleton _ _,
      fun e he e' he' => ?_⟩
    obtain rfl := List.mem_singleton.mp he'
    rintro id hends rfl
    exact hlt he (Event.id_of_ends hends)
  · intro id socket message hin
    obtain hin | heq := mem_log_append.mp hin
    · obtain ⟨d', epoch, hregistered⟩ := h.bound id socket message hin
      exact ⟨d', epoch, List.mem_append_left _ hregistered⟩
    · cases heq
  · intro d' c' agentId capability hc' hcapability
    obtain ⟨rfl, rfl⟩ | ⟨-, hc'⟩ := hcases d' c' hc'
    · simp [hagents] at hcapability
    · exact List.mem_append_left _ (h.capability d' c' agentId capability hc' hcapability)

/-- **An entry about a live connection**, which stays as it is but for its Agents' capabilities. -/
theorem Inv.notes (h : Inv r) (hc : r.connections d = some c) (c' : Connection Socket)
    (hsame : c'.id = c.id ∧ c'.epoch = c.epoch ∧ c'.socket = c.socket)
    {events : List (Event Socket)}
    (hevents : events = [] ∨ (∃ agentId capability, events = [.recorded c.id agentId capability]) ∨
      ∃ message, events = [.sent c.id c.socket message])
    (hagents : ∀ agentId capability, c'.governedExecutionAgents agentId = some capability →
      c.governedExecutionAgents agentId = some capability ∨
        .recorded c.id agentId capability ∈ events) :
    Inv { r with
      connections := Function.update r.connections d (some c')
      log := r.log ++ events } := by
  obtain ⟨hid, hepoch, hsocket⟩ := hsame
  -- the only entry that changes is the Device's own
  have hcases : ∀ d' b, Function.update r.connections d (some c') d' = some b →
      (d' = d ∧ b = c') ∨ (d' ≠ d ∧ r.connections d' = some b) := by
    intro d' b hb
    by_cases heq : d' = d
    · subst heq
      rw [Function.update_self] at hb
      exact .inl ⟨rfl, (Option.some.inj hb).symm⟩
    · exact .inr ⟨heq, by simpa [heq] using hb⟩
  have habout : ∀ e ∈ events, e.id = c.id ∧ (∀ id, ¬ e.ends id) ∧
      (∀ d' id epoch socket, e ≠ .registered d' id epoch socket) := by
    obtain rfl | ⟨_, _, rfl⟩ | ⟨_, rfl⟩ := hevents <;> simp [Event.id, Event.ends]
  -- what is noted ends and registers no connection
  have hlive : ∀ id, Live (r.log ++ events) id ↔ Live r.log id := fun id =>
    ⟨fun hl e he => hl e (List.mem_append_left _ he), fun hl e he =>
      (List.mem_append.mp he).elim (hl e) fun he => (habout e he).2.1 id⟩
  have hregistered : ∀ {d' id epoch socket}, .registered d' id epoch socket ∈ r.log ++ events →
      .registered d' id epoch socket ∈ r.log := fun hin =>
    (List.mem_append.mp hin).resolve_right fun hin => absurd rfl ((habout _ hin).2.2 _ _ _ _)
  constructor
  · intro e he
    obtain he | he := List.mem_append.mp he
    · exact h.numbered e he
    · exact (habout e he).1 ▸ h.id_lt hc
  · intro d' b hb
    obtain ⟨rfl, rfl⟩ | ⟨-, hb⟩ := hcases d' b hb
    · rw [hid, hepoch, hsocket]
      exact List.mem_append_left _ (h.registered d' c hc)
    · exact List.mem_append_left _ (h.registered d' b hb)
  · intro d' b hb
    obtain ⟨rfl, rfl⟩ | ⟨-, hb⟩ := hcases d' b hb
    · exact (hlive _).mpr (hid ▸ h.live d' c hc)
    · exact (hlive _).mpr (h.live d' b hb)
  · intro d' id epoch socket hin hl
    obtain ⟨b, hb, rfl⟩ := h.current d' id epoch socket (hregistered hin) ((hlive _).mp hl)
    by_cases heq : d' = d
    · subst heq
      obtain rfl := Option.mem_unique hc hb
      exact ⟨c', Function.update_self _ _ _, hid⟩
    · exact ⟨b, by simpa [heq] using hb, rfl⟩
  · intro d' d'' id epoch epoch' socket socket' hin hin'
    exact h.unique _ _ _ _ _ _ _ (hregistered hin) (hregistered hin')
  · -- the connection is live, so no end of it is in the log
    refine List.pairwise_append.mpr ⟨h.ended, ?_, fun e he e' he' => ?_⟩
    · obtain rfl | ⟨_, _, rfl⟩ | ⟨_, rfl⟩ := hevents <;> simp
    · rintro id hends rfl
      exact h.live d c hc e he ((habout e' he').1 ▸ hends)
  · intro id socket message hin
    obtain hin | hin := List.mem_append.mp hin
    · obtain ⟨d', epoch, hin⟩ := h.bound id socket message hin
      exact ⟨d', epoch, List.mem_append_left _ hin⟩
    · obtain rfl | ⟨_, _, rfl⟩ | ⟨_, rfl⟩ := hevents
      · cases hin
      · cases List.mem_singleton.mp hin
      · cases List.mem_singleton.mp hin
        exact ⟨d, c.epoch, List.mem_append_left _ (h.registered d c hc)⟩
  · intro d' b agentId capability hb hcapability
    obtain ⟨rfl, rfl⟩ | ⟨-, hb⟩ := hcases d' b hb
    · rw [hid]
      obtain hold | hnew := hagents agentId capability hcapability
      · exact List.mem_append_left _ (h.capability d' c agentId capability hc hold)
      · exact List.mem_append_right _ hnew
    · exact List.mem_append_left _ (h.capability d' b agentId capability hb hcapability)

/-! ## The calls -/

section Calls

variable {P : Platform} {D : Dates} {conforms : GovernedCapability → Bool}
  {r' : Registry Socket}

/-- The state after a registration of which nothing is refused. -/
def Registry.replaced (r : Registry Socket) (d : String) (epoch : Int) (socket : Socket)
    (capabilities : Capabilities) : Registry Socket where
  connections := Function.update r.connections d (some
    { id := r.next
      epoch
      socket
      supportsAgentProvisioning := capabilities.supportsAgentProvisioning
      governedExecution := capabilities.governedExecution
      governedExecutionAgents := fun _ => none })
  next := r.next + 1
  log := r.log ++ (r.connections d).toList.map (fun c => .closed c.id c.socket superseded) ++
    [.registered d r.next epoch socket]

theorem register_cases (conforms : GovernedCapability → Bool) (r : Registry Socket) (d : String)
    (epoch : Int) (socket : Socket) (capabilities : Capabilities) :
    ((r.register conforms d epoch socket capabilities).1 ≠ .returned true ∧
        (r.register conforms d epoch socket capabilities).2 = r) ∨
      ((∀ c, r.connections d = some c → c.epoch < epoch) ∧
        r.register conforms d epoch socket capabilities =
          (.returned true, r.replaced d epoch socket capabilities)) := by
  unfold Registry.register
  dsimp only
  split
  · exact .inl ⟨by simp, rfl⟩
  · next hepoch =>
      split
      · exact .inl ⟨by simp, rfl⟩
      · refine .inr ⟨fun c hc => ?_, rfl⟩
        simpa [hc] using hepoch

theorem Inv.replaced (h : Inv r) (d : String) (epoch : Int) (socket : Socket)
    (capabilities : Capabilities) : Inv (r.replaced d epoch socket capabilities) := by
  unfold Registry.replaced
  cases hc : r.connections d with
  | none =>
    have hnew := h.registers hc ⟨r.next, epoch, socket, capabilities.supportsAgentProvisioning,
      capabilities.governedExecution, fun _ => none⟩ rfl fun _ => rfl
    simpa using hnew
  | some c =>
    have hended := h.ends hc (e := .closed c.id c.socket superseded) rfl
    have hnew := hended.registers (Function.update_self _ _ _)
      ⟨r.next, epoch, socket, capabilities.supportsAgentProvisioning,
        capabilities.governedExecution, fun _ => none⟩ rfl fun _ => rfl
    simpa [Function.update_idem] using hnew

theorem send_cases (P : Platform) (D : Dates) (r : Registry Socket) (d : String)
    (message : Message) (nowMs : Int) :
    r.send P D d message nowMs = (false, r) ∨
      ∃ c, r.connections d = some c ∧ r.allows P D d message nowMs = true ∧
        r.send P D d message nowMs =
          (true, { r with log := r.log ++ [.sent c.id c.socket message] }) := by
  unfold Registry.send
  split
  · exact .inl rfl
  · next c hc =>
      by_cases hallowed : r.allows P D d message nowMs = true
      · exact .inr ⟨c, hc, hallowed, if_pos hallowed⟩
      · exact .inl (if_neg hallowed)

theorem Inv.remove [DecidableEq Socket] (h : Inv r) (d : String) (socket : Socket) :
    Inv (r.remove d socket) := by
  unfold Registry.remove
  split
  · exact h
  · next c hc =>
      split
      · exact h.ends hc rfl
      · exact h

theorem Inv.send (h : Inv r) (d : String) (message : Message) (nowMs : Int) :
    Inv (r.send P D d message nowMs).2 := by
  obtain hsend | ⟨c, hc, -, hsend⟩ := send_cases P D r d message nowMs <;> rw [hsend]
  · exact h
  · have hnotes := h.notes hc c ⟨rfl, rfl, rfl⟩ (.inr (.inr ⟨message, rfl⟩)) fun _ _ h => .inl h
    rwa [← hc, Function.update_eq_self] at hnotes

theorem Inv.record (h : Inv r) (d : String) (epoch : Int) (agentId : String)
    (capability : Option GovernedCapability) :
    Inv (r.recordGovernedAgentCapability d epoch agentId capability).2 := by
  unfold Registry.recordGovernedAgentCapability
  split
  · exact h
  · next c hc =>
      dsimp only
      split
      · exact h
      · split
        · refine h.notes hc { c with
            governedExecutionAgents := Function.update c.governedExecutionAgents agentId none }
            ⟨rfl, rfl, rfl⟩ (.inl rfl) fun agentId' known hknown => .inl ?_
          by_cases heq : agentId' = agentId
          · subst heq
            simp at hknown
          · simpa [heq] using hknown
        · next known =>
            split
            · refine h.notes hc { c with
                governedExecutionAgents :=
                  Function.update c.governedExecutionAgents agentId (some known) }
                ⟨rfl, rfl, rfl⟩ (.inr (.inl ⟨agentId, known, rfl⟩)) fun agentId' known' hknown => ?_
              by_cases heq : agentId' = agentId
              · subst heq
                obtain rfl : known = known' := by simpa using hknown
                exact .inr (List.mem_singleton.mpr rfl)
              · exact .inl (by simpa [heq] using hknown)
            · exact h

theorem Inv.revoke (h : Inv r) (d : String) : Inv (r.revoke d) := by
  unfold Registry.revoke
  split
  · exact h
  · next c hc => exact h.ends hc rfl

theorem Inv.call [DecidableEq Socket] (h : Inv r) (call : Call Socket) :
    Inv (r.call P D conforms call) := by
  cases call with
  | register d epoch socket capabilities =>
    change Inv (r.register conforms d epoch socket capabilities).2
    obtain ⟨-, hsame⟩ | ⟨-, hreplaced⟩ := register_cases conforms r d epoch socket capabilities
    · rw [hsame]
      exact h
    · rw [hreplaced]
      exact h.replaced d epoch socket capabilities
  | remove d socket => exact h.remove d socket
  | send d message nowMs => exact h.send d message nowMs
  | record d epoch agentId capability => exact h.record d epoch agentId capability
  | revoke d => exact h.revoke d

theorem inv_reachable [DecidableEq Socket] (h : (registry P D conforms).Reachable r) : Inv r := by
  refine System.invariant Inv ?_ ?_ h
  · rintro r rfl
    exact inv_new
  · rintro call r r' rfl hr
    exact hr.call call

end Calls

/-! ## What a governed Run is sent by -/

section Law

variable (P : Platform) (D : Dates) (conforms : GovernedCapability → Bool)

/-- **The grant of a governed Run.** The message names the Agent and holds a valid manifest for it
and for the Device, and of the grants that `capability` lists one alone is current and matches. -/
structure Granted (d : String) (message : Message) (nowMs : Int) (agentId : String)
    (capability : GovernedCapability) : Prop where
  agent : governedExecutionAgentId message = some agentId
  grant : ∃ manifest grant, governedExecutionManifest message = some manifest ∧
    P.conforms manifest = true ∧
    P.digest (.manifest { manifest with manifestDigest := "" }) = manifest.manifestDigest ∧
    manifest.scope.deviceId = d ∧ manifest.scope.agentId = agentId ∧
    (capability.readyGrants.getD []).filter
      (fun grant => exactGrantMatchesManifest P D grant manifest nowMs) = [grant] ∧
    grant.deviceId = d ∧ grant.agentId = agentId ∧ grant.grant = manifest.grant ∧
    grant.revokedAt = none ∧ D.millisecond grant.issuedAt ≤ nowMs ∧
    ∃ expiresAt, P.parse grant.grant.expiresAt = some expiresAt ∧ nowMs < expiresAt

variable {P D conforms}

/-- What the comparison of a grant and a manifest says of the grant. -/
theorem current_of_matches {grant : ExecutionGrantSummary} {manifest : Manifest} {nowMs : Int}
    (h : exactGrantMatchesManifest P D grant manifest nowMs = true) :
    grant.deviceId = manifest.scope.deviceId ∧ grant.agentId = manifest.scope.agentId ∧
      grant.grant = manifest.grant ∧ grant.revokedAt = none ∧
      D.millisecond grant.issuedAt ≤ nowMs ∧
      ∃ expiresAt, P.parse grant.grant.expiresAt = some expiresAt ∧ nowMs < expiresAt := by
  unfold exactGrantMatchesManifest at h
  simp only [Bool.and_eq_true, decide_eq_true_eq] at h
  obtain ⟨⟨⟨⟨hdevice, hagent⟩, hgrant⟩, hfits⟩, hdates⟩ := h
  have hrevoked : grant.revokedAt = none := by
    unfold Consent.fitsNode at hfits
    simp only [Bool.and_eq_true, Option.isNone_iff_eq_none] at hfits
    exact hfits.1.1.1.1.1.2
  refine ⟨hdevice, hagent, hgrant, hrevoked, ?_⟩
  split at hdates
  · next expiresAt deadline hexpires _ =>
      simp only [Bool.and_eq_true, decide_eq_true_eq] at hdates
      exact ⟨hdates.1.1, expiresAt, hexpires, hdates.1.2⟩
  · cases hdates

theorem granted_of_allows {message : Message} {nowMs : Int}
    (hgoverned : hasGovernedExecution message = true) (hc : r.connections d = some c)
    (hallows : r.allows P D d message nowMs = true) :
    ∃ agentId capability, c.governedExecutionAgents agentId = some capability ∧
      Granted P D d message nowMs agentId capability := by
  unfold Registry.allows at hallows
  rw [if_pos hgoverned] at hallows
  split at hallows
  · next agentId manifest hagent hmanifest =>
      obtain ⟨hcapable, hexact⟩ :=
        Bool.and_eq_true_iff.mp (Bool.and_eq_true_iff.mp hallows).2
      have hrecorded : r.view.governedAgentExecutionCapability d agentId =
          c.governedExecutionAgents agentId := by
        simp [Consent.Connections.governedAgentExecutionCapability, Registry.view, hc]
      obtain ⟨capability, hcapability, -⟩ :=
        (Option.any_eq_true _ _).mp (Bool.and_eq_true_iff.mp hcapable).2
      rw [hrecorded] at hcapability
      have hgrants : r.view.governedAgentReadyGrants d agentId =
          capability.readyGrants.getD [] := by
        simp [Consent.Connections.governedAgentReadyGrants, hrecorded, hcapability]
      unfold Consent.hasExactCurrentGrant at hexact
      simp only [Bool.and_eq_true, decide_eq_true_eq, hgrants] at hexact
      obtain ⟨⟨⟨⟨hconforms, hdigest⟩, hdevice⟩, hagentId⟩, hone⟩ := hexact
      obtain ⟨grant, hgrant⟩ := List.length_eq_one_iff.mp hone
      have hmatches := (List.mem_filter.mp (hgrant ▸ List.mem_singleton_self grant)).2
      obtain ⟨hgrantDevice, hgrantAgent, hpin, hrevoked, hissued, hexpires⟩ :=
        current_of_matches hmatches
      exact ⟨agentId, capability, hcapability, hagent, manifest, grant, hmanifest, hconforms,
        hdigest, hdevice, hagentId, hgrant, hgrantDevice.trans hdevice, hgrantAgent.trans hagentId,
        hpin, hrevoked, hissued, hexpires⟩
  · cases hallows

variable (P D conforms)

/-- **What holds of the registry after any sequence of calls.** -/
structure RegistryLaw [DecidableEq Socket] (r : Registry Socket) : Prop where
  /-- The connection of a Device is its one registration that has not ended. -/
  oneSocket : ∀ d id epoch socket,
    (.registered d id epoch socket ∈ r.log ∧ Live r.log id) ↔
      ∃ c, r.connections d = some c ∧ c.id = id ∧ c.epoch = epoch ∧ c.socket = socket
  /-- A registration in place of another has a larger epoch, and closes the socket before it is
  registered; it adds nothing else to the log. -/
  replaces : ∀ d epoch socket capabilities c, r.connections d = some c →
    (r.register conforms d epoch socket capabilities).1 = .returned true →
      c.epoch < epoch ∧
      (r.register conforms d epoch socket capabilities).2.log = r.log ++
        [.closed c.id c.socket superseded, .registered d r.next epoch socket] ∧
      (∀ e ∈ r.log, e.id ≠ r.next)
  /-- A registration that is refused, or throws, changes nothing. -/
  refused : ∀ d epoch socket capabilities,
    (r.register conforms d epoch socket capabilities).1 ≠ .returned true →
      (r.register conforms d epoch socket capabilities).2 = r
  /-- After a connection is replaced, removed or revoked, there is nothing more about it: it is
  closed once, and nothing is sent or recorded under it. -/
  ended : r.log.Pairwise fun e e' => ∀ id, e.ends id → e'.id ≠ id
  /-- What is sent under a connection is put on the socket it was registered with. -/
  bound : ∀ id socket message, .sent id socket message ∈ r.log →
    ∃ d epoch, .registered d id epoch socket ∈ r.log
  /-- A connection is registered once. -/
  unique : ∀ d d' id epoch epoch' socket socket', .registered d id epoch socket ∈ r.log →
    .registered d' id epoch' socket' ∈ r.log → d = d' ∧ epoch = epoch' ∧ socket = socket'
  /-- A late `remove`, by a socket without a live connection of the Device, changes nothing. -/
  removed : ∀ d socket,
    (∀ id epoch, .registered d id epoch socket ∈ r.log → ¬ Live r.log id) →
      r.remove d socket = r
  /-- A capability of an Agent was recorded under the connection that has it. -/
  capability : ∀ d c agentId capability, r.connections d = some c →
    c.governedExecutionAgents agentId = some capability →
      .recorded c.id agentId capability ∈ r.log
  /-- A governed Run is sent by the one current grant that matches it, of those recorded under the
  connection it is sent over. -/
  governed : ∀ d message nowMs, hasGovernedExecution message = true →
    (r.send P D d message nowMs).1 = true →
      ∃ c agentId capability, r.connections d = some c ∧
        (r.send P D d message nowMs).2.log = r.log ++ [.sent c.id c.socket message] ∧
        .recorded c.id agentId capability ∈ r.log ∧
        c.governedExecutionAgents agentId = some capability ∧
        Granted P D d message nowMs agentId capability

variable {P D conforms}

/-- **The connection registry law.** -/
theorem registry_law [DecidableEq Socket] (h : (registry P D conforms).Reachable r) :
    RegistryLaw P D conforms r := by
  have hinv := inv_reachable h
  constructor
  · intro d id epoch socket
    constructor
    · rintro ⟨hin, hlive⟩
      obtain ⟨c, hc, rfl⟩ := hinv.current d id epoch socket hin hlive
      obtain ⟨-, hepoch, hsocket⟩ := hinv.unique _ _ _ _ _ _ _ (hinv.registered d c hc) hin
      exact ⟨c, hc, rfl, hepoch, hsocket⟩
    · rintro ⟨c, hc, rfl, rfl, rfl⟩
      exact ⟨hinv.registered d c hc, hinv.live d c hc⟩
  · intro d epoch socket capabilities c hc hreturned
    obtain ⟨hnot, -⟩ | ⟨hepoch, hreplaced⟩ := register_cases conforms r d epoch socket capabilities
    · exact absurd hreturned hnot
    · refine ⟨hepoch c hc, ?_, fun e he => Nat.ne_of_lt (hinv.numbered e he)⟩
      rw [hreplaced]
      simp [Registry.replaced, hc]
  · intro d epoch socket capabilities hnot
    obtain ⟨-, hsame⟩ | ⟨-, hreplaced⟩ := register_cases conforms r d epoch socket capabilities
    · exact hsame
    · exact absurd (congrArg Prod.fst hreplaced) hnot
  · exact hinv.ended
  · exact hinv.bound
  · exact hinv.unique
  · intro d socket hended
    unfold Registry.remove
    split
    · rfl
    · next c hc =>
        refine if_neg fun heq => ?_
        exact hended c.id c.epoch (heq ▸ hinv.registered d c hc) (hinv.live d c hc)
  · exact hinv.capability
  · intro d message nowMs hgoverned hsent
    obtain hsend | ⟨c, hc, hallows, hsend⟩ := send_cases P D r d message nowMs
    · simp [hsend] at hsent
    · obtain ⟨agentId, capability, hcapability, hgranted⟩ :=
        granted_of_allows hgoverned hc hallows
      exact ⟨c, agentId, capability, hc, by rw [hsend],
        hinv.capability d c agentId capability hc hcapability, hcapability, hgranted⟩

end Law

/-! ## Runs -/

section Runs

variable [DecidableEq Socket] (P : Platform) (D : Dates) (conforms : GovernedCapability → Bool)

def Registry.after (r : Registry Socket) (calls : List (Call Socket)) : Registry Socket :=
  calls.foldl (Registry.call P D conforms) r

theorem reachable_after {r : Registry Socket} (h : (registry P D conforms).Reachable r)
    (calls : List (Call Socket)) :
    (registry P D conforms).Reachable (r.after P D conforms calls) := by
  induction calls generalizing r with
  | nil => exact h
  | cons call calls ih => exact ih (System.reachable_step h (i := call) rfl)

end Runs

namespace RegistrySample

open Consent.DispatchSample (dates manifest platform)

/-- What a Device can do, and an Agent of it, with the grants that are ready. -/
def capability (readyGrants : Option (List ExecutionGrantSummary)) : GovernedCapability :=
  ⟨"workspace", [.prepare, .capture, .verify], false, readyGrants⟩

/-- The Agent with the grant of the manifest. -/
def ready : GovernedCapability := capability (some [Consent.DispatchSample.summary])

def ping : Message := ⟨some "ping", .absent⟩

/-- A governed Run. -/
def requested : Message :=
  ⟨some "run.requested", .object ⟨some "agent_sample01", .object ⟨.object manifest⟩⟩⟩

/-- A governed Run before its Agent says what grants it has, and after; a reconnect, and what is
late for the first connection: a capability, and a close. The second connection has no grant. -/
def calls : List (Call Nat) :=
  [.register "device_sample01" 1 0 ⟨true, some (capability none)⟩,
    .send "device_sample01" requested 1,
    .record "device_sample01" 1 "agent_sample01" (some ready),
    .send "device_sample01" requested 1,
    .register "device_sample01" 2 1 ⟨true, some (capability none)⟩,
    .record "device_sample01" 1 "agent_sample01" (some ready), .remove "device_sample01" 0,
    .send "device_sample01" requested 1, .send "device_sample01" ping 1,
    .revoke "device_sample01"]

/-- A socket that says hello again, with a later epoch. -/
def again : List (Call Nat) :=
  [.register "device" 1 0 ⟨false, none⟩, .register "device" 2 0 ⟨false, none⟩,
    .send "device" ping 0]

end RegistrySample

open RegistrySample Consent.DispatchSample in
theorem registry_law_sample :
    RegistryLaw platform dates (fun _ => true)
        (Registry.new.after platform dates (fun _ => true) calls) ∧
      (Registry.new.after platform dates (fun _ => true) calls).log =
        [.registered "device_sample01" 0 1 0, .recorded 0 "agent_sample01" ready,
          .sent 0 0 requested, .closed 0 0 superseded, .registered "device_sample01" 1 2 1,
          .sent 1 1 ping, .closed 1 1 revoked] :=
  ⟨registry_law (reachable_after _ _ _ (System.reachable_init rfl) calls), by decide +kernel⟩

open RegistrySample Consent.DispatchSample in
/-- **A closed socket is sent a message**: it was registered again, so it is closed in favour of
itself. -/
theorem registry_resends :
    ¬ ∀ (P : Platform) (D : Dates) (conforms : GovernedCapability → Bool)
      (calls : List (Call Nat)),
      (Registry.new.after P D conforms calls).log.Pairwise fun e e' =>
        ∀ id socket code, e = .closed id socket code →
          ∀ id' message, e' ≠ .sent id' socket message := by
  intro hnever
  have hlog : (Registry.new.after platform dates (fun _ => true) again).log =
      [.registered "device" 0 1 0, .closed 0 0 superseded, .registered "device" 1 2 0,
        .sent 1 0 ping] := by decide
  have hpairwise := hnever platform dates (fun _ => true) again
  rw [hlog] at hpairwise
  simp at hpairwise

end AgentRoom.Connections
