import AgentRoom.Run.System

/-!
# What becomes of a Run

Two relations between databases. `Onward` is what any service does to the Runs, whatever
it is called with: a started Run never goes back to the queue, an ended one keeps its
state, and a log only grows. `RunWrite` is what one event does: it touches one Run and no
Agent.
-/

namespace AgentRoom.Hosted

open Tx RunRepository

/-- The Run was delivered once. -/
def Delivered (db : Central) (id : RunId) : Prop :=
  ∃ entry ∈ db.runEvents, entry.runId = id ∧
    ∃ event, entry.event = .status event ∧ event.status = .delivered

/-- **What becomes of the Runs.** -/
structure Onward (db db' : Central) : Prop where
  run : ∀ id run, db.runs.get id = some run → ∃ run', db'.runs.get id = some run' ∧
    run'.targetAgentId = run.targetAgentId ∧
    (run.state.terminal = true → run'.state = run.state) ∧
    (run.state ≠ .queued → run'.state ≠ .queued)
  log : ∀ entry ∈ db.runEvents, entry ∈ db'.runEvents

namespace Onward

theorem refl (db : Central) : Onward db db :=
  ⟨fun _ run h => ⟨run, h, rfl, fun _ => rfl, fun h => h⟩, fun _ h => h⟩

theorem trans {a b c : Central} (h₁ : Onward a b) (h₂ : Onward b c) : Onward a c := by
  refine ⟨fun id run hget => ?_, fun entry h => h₂.log entry (h₁.log entry h)⟩
  obtain ⟨run₁, hget₁, htarget₁, hended₁, hstarted₁⟩ := h₁.run id run hget
  obtain ⟨run₂, hget₂, htarget₂, hended₂, hstarted₂⟩ := h₂.run id run₁ hget₁
  refine ⟨run₂, hget₂, htarget₂.trans htarget₁, fun h => ?_, fun h => hstarted₂ (hstarted₁ h)⟩
  have hsame := hended₁ h
  rw [hended₂ (by rw [hsame]; exact h), hsame]

theorem delivered {db db' : Central} {id : RunId} (h : Onward db db') (hd : Delivered db id) :
    Delivered db' id := by
  obtain ⟨entry, hmem, rest⟩ := hd
  exact ⟨entry, h.log entry hmem, rest⟩

end Onward

theorem nextState_ne_queued (event : RuntimeEvent) {state : RunState} (h : state ≠ .queued) :
    event.nextState state ≠ .queued := by
  cases event with
  | status e => cases e with | mk _ status => cases status <;> exact nofun
  | activity e => exact h
  | output e => exact h
  | reply e => exact h

variable {db db' : Central}

/-- Every committed write of the Run services leads onward. -/
theorem onward_of_move {K : Allows} (h : Move K db db') : Onward db db' := by
  have hsame : ∀ {c : Central}, c.runs = db.runs → c.runEvents = db.runEvents → Onward db c :=
    fun hr hl => ⟨fun key run hget => ⟨run, by rw [hr]; exact hget, rfl, fun _ => rfl, fun h => h⟩,
      fun entry hmem => by rw [hl]; exact hmem⟩
  cases h with
  | append h adm allowed =>
    rename_i id₀ run₀ event now
    refine ⟨fun id run hget => ?_, fun entry hmem => ?_⟩
    · rw [h.runs, Table.get_put]
      split
      · next heq =>
          subst heq
          obtain rfl := Option.mem_unique hget h.get
          refine ⟨_, rfl, rfl, fun hended => ?_, nextState_ne_queued event⟩
          rw [h.live] at hended
          cases hended
      · exact ⟨run, hget, rfl, fun _ => rfl, fun h => h⟩
    · rw [h.log]
      exact List.mem_append_left _ hmem
  | createRun fresh key state sequence terminalAt =>
    rename_i id₀ created
    refine ⟨fun id run hget => ?_, fun entry hmem => hmem⟩
    have hne : id ≠ id₀ := by
      intro heq
      rw [heq, fresh] at hget
      cases hget
    exact ⟨run, by rw [Table.get_put_ne _ _ hne]; exact hget, rfl, fun _ => rfl, fun h => h⟩
  | openIntent get live first key pending status => exact hsame rfl rfl
  | settleIntent get ended => exact hsame rfl rfl
  | touchIntent get pending => exact hsame rfl rfl
  | deliver known => exact hsame rfl rfl
  | send stored allowed => exact hsame rfl rfl
  | side h => exact hsame h.runs h.runEvents

theorem onward_of_step {services : Services} {label : Label} (hk : Keyed db)
    (h : (central services).step label db db') : Onward db db' := by
  have hm := step_moves hk h
  clear h
  induction hm with
  | refl => exact Onward.refl db
  | tail _ hlast ih => exact ih.trans (onward_of_move hlast)

/-! ## Programs that leave the Agents alone -/

def SameAgents (db db' : Central) : Prop := db'.agents = db.agents

theorem createOpaqueId_agents (db : Central) : Along SameAgents createOpaqueId db := .single rfl

theorem nextMessageSequence_agents (roomId : RoomId) (db : Central) :
    Along SameAgents (nextMessageSequence roomId) db := by
  refine along_bind_get ?_
  cases db.rooms.get roomId with
  | none => exact along_throw _
  | some room => exact .single rfl

theorem openClarification_agents (current : RunRecord) (event : StatusEvent)
    (clarification : TaskClarificationRequest) (now : Time) (db : Central) :
    Along SameAgents (openClarification current event clarification now) db := by
  unfold openClarification
  split
  · exact along_throw _
  · refine along_bind_get ?_
    split
    · exact along_throw _
    · refine along_bind (createOpaqueId_agents _) fun questionMessageId db₁ _ => ?_
      refine along_bind (createOpaqueId_agents _) fun clarificationId db₂ _ => ?_
      refine along_bind (nextMessageSequence_agents _ _) fun sequence db₃ _ => ?_
      exact along_bind (along_modify rfl) fun _ db₄ _ => along_modify rfl

theorem projectEvent_agents (current : RunRecord) (event : RuntimeEvent) (now : Time)
    (db : Central) : Along SameAgents (projectEvent current event now) db := by
  cases event with
  | status e =>
    refine along_bind (along_whenSome fun c _ => openClarification_agents _ _ _ _ _) fun _ _ _ => ?_
    refine along_whenSome fun session _ => along_modify ?_
    unfold SameAgents
    split <;> rfl
  | reply e => exact along_modify rfl
  | activity e => exact along_pure ()
  | output e => exact along_pure ()

theorem commitRuntimeEvent_agents (id : RunId) (run : RunRecord) (event : RuntimeEvent)
    (now : Time) (db : Central) : Along SameAgents (commitRuntimeEvent id run event now) db := by
  refine along_bind (along_modify rfl) fun _ db₁ _ => ?_
  refine along_bind (projectEvent_agents run event now db₁) fun _ db₂ _ => ?_
  refine along_bind (along_modify rfl) fun _ db₃ _ => ?_
  refine along_bind (along_when fun _ => along_modify rfl) fun _ db₄ _ => ?_
  refine along_bind_get ?_
  cases db₄.runs.get id with
  | none => exact along_throw _
  | some updated => exact along_pure _

theorem applyRuntimeEvent_agents (id : RunId) (event : RuntimeEvent) (now : Time) (db : Central) :
    Along SameAgents (applyRuntimeEvent id event now) db := by
  refine along_immediate (getRun_bind_along ?_)
  cases db.runs.get id with
  | none => exact along_throw _
  | some current =>
    dsimp only
    split
    · exact along_pure _
    · split
      · exact along_throw _
      · exact commitRuntimeEvent_agents _ _ _ _ _

theorem agents_of_along {α : Type} {x : Db α} (h : Along SameAgents x db) :
    (x db).2.agents = db.agents :=
  h.related (R := SameAgents) (fun _ => rfl) (fun _ _ _ h₁ h₂ => Eq.trans h₂ h₁) fun _ _ h => h

/-! ## One event -/

/-- **A write to one Run.** Its state goes where `becomes` says, if it changes at all. -/
structure RunWrite (id : RunId) (becomes : RunState → RunState → Prop) (db db' : Central) :
    Prop where
  agents : db'.agents = db.agents
  log : ∀ entry ∈ db.runEvents, entry ∈ db'.runEvents
  other : ∀ id', id' ≠ id → db'.runs.get id' = db.runs.get id'
  self : db'.runs.get id = db.runs.get id ∨ ∃ run run', db.runs.get id = some run ∧
    db'.runs.get id = some run' ∧ run.state.terminal = false ∧ run'.runId = run.runId ∧
    run'.targetAgentId = run.targetAgentId ∧ becomes run.state run'.state

namespace RunWrite

variable {id : RunId} {becomes : RunState → RunState → Prop} {db db' : Central}

theorem refl (db : Central) : RunWrite id becomes db db :=
  ⟨rfl, fun _ h => h, fun _ _ => rfl, .inl rfl⟩

theorem mono {becomes' : RunState → RunState → Prop} (h : RunWrite id becomes db db')
    (hb : ∀ s s', becomes s s' → becomes' s s') : RunWrite id becomes' db db' := by
  refine ⟨h.agents, h.log, h.other, h.self.imp_right ?_⟩
  rintro ⟨run, run', h₁, h₂, h₃, h₄, h₅, h₆⟩
  exact ⟨run, run', h₁, h₂, h₃, h₄, h₅, hb _ _ h₆⟩

theorem onward (h : RunWrite id becomes db db')
    (hb : ∀ s s', becomes s s' → s ≠ .queued → s' ≠ .queued) : Onward db db' := by
  refine ⟨fun id' run hget => ?_, h.log⟩
  by_cases hid : id' = id
  · subst hid
    rcases h.self with hsame | ⟨run₀, run', hget₀, hget', hlive, _, htarget, hbecomes⟩
    · exact ⟨run, hsame.trans hget, rfl, fun _ => rfl, fun h => h⟩
    · obtain rfl := Option.mem_unique hget hget₀
      refine ⟨run', hget', htarget, fun hended => ?_, hb _ _ hbecomes⟩
      rw [hlive] at hended
      cases hended
  · exact ⟨run, (h.other id' hid).trans hget, rfl, fun _ => rfl, fun h => h⟩

theorem keyed (h : RunWrite id becomes db db') (hk : Keyed db) : Keyed db' := by
  intro id' run' hget
  by_cases hid : id' = id
  · subst hid
    rcases h.self with hsame | ⟨run, run'', hget₀, hget', _, hkey, _⟩
    · exact hk id' run' (hsame.symm.trans hget)
    · obtain rfl := Option.mem_unique hget hget'
      exact hkey.trans (hk id' run hget₀)
  · exact hk id' run' ((h.other id' hid).symm.trans hget)

theorem trans {c : Central} (h₁ : RunWrite id becomes db db') (h₂ : RunWrite id becomes db' c)
    (hb : ∀ s s' s'', becomes s s' → becomes s' s'' → becomes s s'') :
    RunWrite id becomes db c := by
  refine ⟨h₂.agents.trans h₁.agents, fun entry hmem => h₂.log entry (h₁.log entry hmem),
    fun id' hne => (h₂.other id' hne).trans (h₁.other id' hne), ?_⟩
  rcases h₁.self with hsame₁ | ⟨run, run₁, hget, hget₁, hlive, hkey₁, htarget₁, hbecomes₁⟩
  · rcases h₂.self with hsame₂ | ⟨run₁, run₂, hget₁, rest⟩
    · exact .inl (hsame₂.trans hsame₁)
    · exact .inr ⟨run₁, run₂, hsame₁.symm.trans hget₁, rest⟩
  · right
    rcases h₂.self with hsame₂ | ⟨run₁', run₂, hget₁', hget₂, _, hkey₂, htarget₂, hbecomes₂⟩
    · exact ⟨run, run₁, hget, hsame₂.trans hget₁, hlive, hkey₁, htarget₁, hbecomes₁⟩
    · obtain rfl := Option.mem_unique hget₁ hget₁'
      exact ⟨run, run₂, hget, hget₂, hlive, hkey₂.trans hkey₁, htarget₂.trans htarget₁,
        hb _ _ _ hbecomes₁ hbecomes₂⟩

theorem of_side (h : SideOnly db db') (hagents : db'.agents = db.agents) :
    RunWrite id becomes db db' where
  agents := hagents
  log entry hmem := by
    rw [h.runEvents]
    exact hmem
  other id' _ := by rw [h.runs]
  self := .inl (by rw [h.runs])

end RunWrite

variable {id : RunId}

theorem runWrite_of_appended {run : RunRecord} {event : RuntimeEvent} {now : Time}
    (h : Appended id run event now db db') (hagents : db'.agents = db.agents) :
    RunWrite id (fun s s' => s' = event.nextState s) db db' where
  agents := hagents
  log entry hmem := by
    rw [h.log]
    exact List.mem_append_left _ hmem
  other id' hne := by rw [h.runs, Table.get_put_ne _ _ hne]
  self := .inr ⟨run, run.advanced event now, h.get, by rw [h.runs, Table.get_put_self], h.live,
    rfl, rfl, rfl⟩

theorem applyEvent_write (id : RunId) (event : RuntimeEvent) (now : Time) (db : Central) :
    RunWrite id (fun s s' => s' = event.nextState s) db (applyEvent id event now db).2 := by
  have hagents := agents_of_along (applyRuntimeEvent_agents id event now db)
  unfold applyEvent
  rcases applyRuntimeEvent_cases id event now db with ⟨e, h⟩ | ⟨run, _, _, h⟩ | ⟨run, db', ha, h⟩
  · rw [h]
    exact RunWrite.refl db
  · rw [h]
    exact RunWrite.refl db
  · rw [h] at hagents ⊢
    exact runWrite_of_appended ha hagents

/-- The writes of a status event that asks nothing and reports no session cannot fail. -/
theorem commitRuntimeEvent_plain (id : RunId) (run : RunRecord) {event : StatusEvent} (now : Time)
    (db : Central) (hasks : event.clarification = none) (hsession : event.session = none) :
    ∃ applied db', commitRuntimeEvent id run (.status event) now db = (.ok applied, db') := by
  have hproject : ∀ c, projectEvent run (.status event) now c = (.ok (), c) := by
    intro c
    unfold projectEvent
    dsimp only
    rw [hasks, hsession]
    rfl
  unfold commitRuntimeEvent insertRunEvent
  rw [modify_bind, bind_ok (hproject _), modify_bind]
  unfold when resolveCancellationIntent
  split
  all_goals
    simp only [modify_bind, pure_bind_apply, getRun_bind, Table.get_put_self, pure_apply]
    exact ⟨_, _, rfl⟩

/-- A status event that asks nothing and reports no session is applied to a live Run. -/
theorem applyEvent_plain {run : RunRecord} {event : StatusEvent} (now : Time)
    (hget : db.runs.get id = some run) (hlive : run.state.terminal = false)
    (hnext : event.sequence = run.lastSequence + 1) (hasks : event.clarification = none)
    (hsession : event.session = none) :
    ∃ db', Appended id run (.status event) now db db' ∧ db'.agents = db.agents ∧
      applyEvent id (.status event) now db =
        (.ok { applied := true, run := run.advanced (.status event) now }, db') := by
  have hagents := agents_of_along (applyRuntimeEvent_agents id (.status event) now db)
  unfold applyEvent
  rcases applyRuntimeEvent_cases id (.status event) now db with
    ⟨e, h⟩ | ⟨run', hget', hstale, h⟩ | ⟨run', db', ha, h⟩
  · exfalso
    obtain ⟨applied, db', hcommit⟩ := commitRuntimeEvent_plain id run now db hasks hsession
    have hstale : ¬(RuntimeEvent.sequence (.status event) ≤ run.lastSequence ∨
        run.state.terminal = true) := by
      rw [hlive]
      rintro (hle | hended)
      · exact absurd (show event.sequence ≤ run.lastSequence from hle) (by omega)
      · cases hended
    have hgap : ¬RuntimeEvent.sequence (.status event) ≠ run.lastSequence + 1 := not_not.mpr hnext
    unfold applyRuntimeEvent immediate at h
    simp only [getRun_bind, hget, if_neg hstale, if_neg hgap, hcommit] at h
    cases h
  · exfalso
    obtain rfl := Option.mem_unique hget hget'
    rcases hstale with hstale | hstale
    · have : event.sequence ≤ run.lastSequence := hstale
      omega
    · rw [hlive] at hstale
      cases hstale
  · obtain rfl := Option.mem_unique hget ha.get
    rw [h] at hagents
    exact ⟨db', ha, hagents, h⟩

/-- A Run a reply was applied to keeps its state or completes. -/
def RepliedOrCompleted (s s' : RunState) : Prop := s' = s ∨ s' = .completed

theorem RepliedOrCompleted.trans (s s' s'' : RunState) (h₁ : RepliedOrCompleted s s')
    (h₂ : RepliedOrCompleted s' s'') : RepliedOrCompleted s s'' := by
  rcases h₂ with rfl | rfl
  · exact h₁
  · exact .inr rfl

theorem immediate_write {α : Type} {x : Db α} {becomes : RunState → RunState → Prop}
    (h : RunWrite id becomes db (x db).2) :
    RunWrite id becomes db (immediate x db).2 := by
  rcases hx : x db with ⟨e | a, db'⟩
  · rw [immediate_error hx]
    exact RunWrite.refl db
  · rw [immediate_ok hx]
    rw [hx] at h
    exact h

theorem projectReplyMessage_agents (run : RunRecord) (event : ReplyEvent) (now : Time)
    (db : Central) : Along SameAgents (projectReplyMessage run event now) db := by
  refine along_bind (createOpaqueId_agents _) fun messageId db₁ _ => ?_
  refine along_bind (nextMessageSequence_agents _ _) fun sequence db₂ _ => ?_
  exact along_bind (along_modify rfl) fun _ _ _ => along_modify rfl

theorem applyReply_write (id : RunId) (event : ReplyEvent) (now : Time) (db : Central) :
    RunWrite id RepliedOrCompleted db (applyReply id event now db).2 := by
  refine immediate_write ?_
  have hevent : RunWrite id RepliedOrCompleted db (applyEvent id (.reply event) now db).2 :=
    (applyEvent_write id (.reply event) now db).mono fun _ _ h => .inl h
  unfold applyEvent at hevent
  rcases hx : applyRuntimeEvent id (.reply event) now db with ⟨e | applied, db₁⟩
  · rw [bind_error hx]
    simpa [hx] using hevent
  · rw [bind_ok hx]
    rw [hx] at hevent
    by_cases happlied : applied.applied = true
    · have hside := SideOnly.of_along (projectReplyMessage_side applied.run event now db₁)
      have hagents := agents_of_along (projectReplyMessage_agents applied.run event now db₁)
      have hwrite := hevent.trans (.of_side hside hagents) RepliedOrCompleted.trans
      rcases hp : projectReplyMessage applied.run event now db₁ with ⟨e | u, db₂⟩
      · rw [when, if_pos happlied, bind_error hp]
        simpa [hp] using hwrite
      · rw [when, if_pos happlied, bind_ok hp]
        simpa [hp] using hwrite
    · rw [when, if_neg happlied]
      exact hevent

theorem applyReplyAndTerminal_write (id : RunId) (event : ReplyEvent) (terminalSequence : Nat)
    (now : Time) (db : Central) :
    RunWrite id RepliedOrCompleted db
      (applyReplyAndTerminal id event terminalSequence now db).2 := by
  unfold applyReplyAndTerminal
  split
  · exact RunWrite.refl db
  refine immediate_write ?_
  have hreply := applyReply_write id event now db
  rcases hx : applyReply id event now db with ⟨e | reply, db₁⟩
  · rw [bind_error hx]
    simpa [hx] using hreply
  rw [bind_ok hx]
  rw [hx] at hreply
  split
  · have hterminal : RunWrite id RepliedOrCompleted db₁ (applyEvent id
        (.status { sequence := terminalSequence, status := .completed }) now db₁).2 :=
      (applyEvent_write id _ now db₁).mono fun _ _ h => .inr h
    have hwrite := hreply.trans hterminal RepliedOrCompleted.trans
    unfold applyEvent at hwrite
    rcases ht : applyRuntimeEvent id
      (.status { sequence := terminalSequence, status := .completed }) now db₁ with
      ⟨e | terminal, db₂⟩
    · rw [bind_error ht]
      simpa [ht] using hwrite
    · rw [bind_ok ht]
      rw [ht] at hwrite
      split <;> exact hwrite
  · exact hreply

end AgentRoom.Hosted
