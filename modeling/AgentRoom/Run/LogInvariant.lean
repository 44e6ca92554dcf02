import AgentRoom.Lib.SeqLog
import AgentRoom.Run.System

/-!
# The Run log

The invariant of a Run and its event log: the stored sequences are `1, …,
lastSequence`, the state is the one the log's status events lead to, and a
terminal status can only be the last event. Along a run, a terminal Run keeps its
state and its log, and a Run that has started working is never queued or delivered
again.
-/

namespace AgentRoom

def RuntimeEvent.Ends (event : RuntimeEvent) : Prop :=
  ∃ e, event = .status e ∧ e.status.toRunState.terminal = true

/-- The event records that the Runtime has started: working, or waiting for input. -/
def RuntimeEvent.Started (event : RuntimeEvent) : Prop :=
  ∃ e, event = .status e ∧ (e.status = .working ∨ e.status = .inputRequired)

/-- The log of a Run leads to its row. -/
structure RunLog (run : RunRecord) (log : List RunEventRecord) : Prop where
  /-- The stored sequences are `1, …, lastSequence`. -/
  numbered : SeqLog.Numbered 1 (log.map (·.sequence))
  length : log.length = run.lastSequence
  /-- The state is the last one a status event set. -/
  state : run.state = log.foldl (fun state r => r.event.nextState state) .queued
  /-- A live Run has no terminal event; a terminal one has it last. -/
  live : run.state.terminal = false → ∀ r ∈ log, ¬ r.event.Ends
  ended : run.state.terminal = true → ∃ pre last e, log = pre ++ [last] ∧
    last.event = .status e ∧ e.status.toRunState = run.state ∧ ∀ r ∈ pre, ¬ r.event.Ends
  terminalAt : run.terminalAt.isSome = run.state.terminal
  /-- Only the first event delivers. -/
  delivered : ∀ r ∈ log, r.event.Admissible

/-- **The log invariant.** -/
structure LogInv (db : Central) : Prop where
  runs : ∀ id run, db.runs.get id = some run → RunLog run (db.listEvents id)
  owned : ∀ r ∈ db.runEvents, (db.runs.get r.runId).isSome

/-! ## One appended event -/

variable {event : RuntimeEvent}

theorem nextState_not_terminal {state : RunState} (hlive : state.terminal = false)
    (h : (event.nextState state).terminal = true) :
    ∃ e, event = .status e ∧ e.status.toRunState = event.nextState state := by
  cases event with
  | status e => exact ⟨e, rfl, rfl⟩
  | activity e => rw [RuntimeEvent.nextState, hlive] at h; cases h
  | output e => rw [RuntimeEvent.nextState, hlive] at h; cases h
  | reply e => rw [RuntimeEvent.nextState, hlive] at h; cases h

theorem not_ends_of_live {state : RunState} (h : (event.nextState state).terminal = false) :
    ¬ event.Ends := by
  rintro ⟨e, rfl, hterm⟩
  rw [RuntimeEvent.nextState, hterm] at h
  cases h

/-- Appending the next event keeps the log leading to its row. -/
theorem RunLog.append {run : RunRecord} {log : List RunEventRecord} (h : RunLog run log)
    (hlive : run.state.terminal = false) {event : RuntimeEvent} {id : RunId} {traceId : TraceId}
    {now : Time} (hnext : event.sequence = run.lastSequence + 1) (adm : event.Admissible) :
    RunLog (run.advanced event now)
      (log ++ [{ runId := id, traceId, event, createdAt := now }]) where
  numbered := by
    rw [List.map_append]
    refine h.numbered.append ?_
    rw [List.length_map, h.length]
    exact hnext.trans (Nat.add_comm _ _)
  length := by
    rw [List.length_append, List.length_singleton, h.length]
    exact hnext.symm
  state := by
    simp only [List.foldl_append, List.foldl_cons, List.foldl_nil]
    rw [← h.state]
    rfl
  live := by
    intro hterm r' hr'
    rcases List.mem_append.mp hr' with hmem | hmem
    · exact h.live hlive r' hmem
    · obtain rfl := List.mem_singleton.mp hmem
      exact not_ends_of_live hterm
  ended := by
    intro hterm
    obtain ⟨e, he, hstate⟩ := nextState_not_terminal hlive hterm
    exact ⟨log, _, e, rfl, he, hstate, h.live hlive⟩
  terminalAt := by
    unfold RunRecord.advanced
    cases (event.nextState run.state).terminal <;> rfl
  delivered := by
    intro r' hr'
    rcases List.mem_append.mp hr' with hmem | hmem
    · exact h.delivered r' hmem
    · obtain rfl := List.mem_singleton.mp hmem
      exact adm

variable {run : RunRecord}

theorem RunLog.created (state : run.state = .queued) (sequence : run.lastSequence = 0)
    (terminalAt : run.terminalAt = none) : RunLog run [] where
  numbered := SeqLog.numbered_nil 1
  length := sequence.symm
  state := state
  live := by simp
  ended := by
    intro hterm
    rw [state] at hterm
    cases hterm
  terminalAt := by
    rw [state, terminalAt]
    rfl
  delivered := by simp

/-! ## Committed writes -/

variable {db db' : Central}

theorem listEvents_append {r : RunEventRecord} (h : db'.runEvents = db.runEvents ++ [r])
    (id : RunId) :
    db'.listEvents id = db.listEvents id ++ if r.runId = id then [r] else [] := by
  unfold Central.listEvents
  rw [h, List.filter_append]
  congr 1
  by_cases hid : r.runId = id <;> simp [hid]

theorem listEvents_congr (h : db'.runEvents = db.runEvents) (id : RunId) :
    db'.listEvents id = db.listEvents id := by
  unfold Central.listEvents
  rw [h]

variable {K : Allows}

theorem LogInv.congr (hi : LogInv db) (hruns : db'.runs = db.runs)
    (hlog : db'.runEvents = db.runEvents) : LogInv db' where
  runs := by
    intro id run hget
    rw [listEvents_congr hlog]
    exact hi.runs id run (hruns ▸ hget)
  owned := by
    intro r hr
    rw [hruns]
    exact hi.owned r (hlog ▸ hr)

theorem logInv_append {id : RunId} {now : Time} (h : Appended id run event now db db')
    (adm : event.Admissible) (hi : LogInv db) : LogInv db' where
  runs := by
    intro id' run' hget
    rw [listEvents_append h.log]
    rw [h.runs, Table.get_put] at hget
    by_cases hid : id' = id
    · subst hid
      rw [if_pos rfl] at hget ⊢
      obtain rfl := Option.some.inj hget
      exact (hi.runs id' run h.get).append h.live h.next adm
    · rw [if_neg hid] at hget
      rw [if_neg (Ne.symm hid), List.append_nil]
      exact hi.runs id' run' hget
  owned := by
    intro r hr
    rw [h.log] at hr
    rw [h.runs, Table.get_put]
    split
    · rfl
    · next hne =>
        rcases List.mem_append.mp hr with hmem | hmem
        · exact hi.owned r hmem
        · obtain rfl : r = _ := List.mem_singleton.mp hmem
          exact absurd rfl hne

theorem logInv_create {id : RunId} (fresh : db.runs.get id = none) (state : run.state = .queued)
    (sequence : run.lastSequence = 0) (terminalAt : run.terminalAt = none) (hi : LogInv db) :
    LogInv { db with runs := db.runs.put id run } where
  runs := by
    intro id' run' hget
    rw [Table.get_put] at hget
    by_cases hid : id' = id
    · subst hid
      rw [if_pos rfl] at hget
      obtain rfl := Option.some.inj hget
      -- no event is stored for a Run that does not exist yet
      have hempty : db.listEvents id' = [] := by
        refine List.filter_eq_nil_iff.mpr fun r hr => ?_
        have := hi.owned r hr
        rw [decide_eq_true_eq]
        rintro rfl
        rw [fresh] at this
        cases this
      change RunLog run (db.listEvents id')
      rw [hempty]
      exact .created state sequence terminalAt
    · rw [if_neg hid] at hget
      exact hi.runs id' run' hget
  owned := by
    intro r hr
    rw [Table.get_put]
    split
    · rfl
    · exact hi.owned r hr

/-- **Every committed write keeps the log invariant.** -/
theorem logInv_move (h : Move K db db') (hi : LogInv db) : LogInv db' := by
  cases h with
  | append h adm allowed => exact logInv_append h adm hi
  | createRun fresh key state sequence terminalAt =>
    exact logInv_create fresh state sequence terminalAt hi
  | openIntent get live first key pending status => exact hi.congr rfl rfl
  | settleIntent get ended => exact hi.congr rfl rfl
  | touchIntent get pending => exact hi.congr rfl rfl
  | deliver known => exact hi.congr rfl rfl
  | send stored allowed => exact hi.congr rfl rfl
  | side h => exact hi.congr h.runs h.runEvents

theorem logInv_reachable {services : Services} (h : (central services).Reachable db) :
    LogInv db := by
  refine central_invariant ?_ (fun _ _ _ => logInv_move) h
  rintro db ⟨hruns, hlog, -⟩
  constructor
  · intro id run hget
    rw [hruns] at hget
    cases hget
  · intro r hr
    rw [hlog] at hr
    cases hr

/-! ## Along a run -/

/-- A log whose Runtime has started leads to neither `queued` nor `delivered`. -/
theorem started_state {log : List RunEventRecord}
    (hnum : SeqLog.Numbered 1 (log.map (·.sequence))) (hadm : ∀ r ∈ log, r.event.Admissible)
    (hstarted : ∃ r ∈ log, r.event.Started) :
    log.foldl (fun state r => r.event.nextState state) .queued ≠ .queued ∧
      log.foldl (fun state r => r.event.nextState state) .queued ≠ .delivered := by
  induction log using List.reverseRecOn with
  | nil =>
    obtain ⟨r, hr, -⟩ := hstarted
    cases hr
  | append_singleton log r ih =>
    rw [List.map_append] at hnum
    obtain ⟨hpre, hseq⟩ := SeqLog.numbered_append.mp hnum
    rw [List.foldl_append, List.foldl_cons, List.foldl_nil]
    by_cases hr : r.event.Started
    · obtain ⟨e, he, hs⟩ := hr
      rw [he]
      rcases hs with hs | hs <;> simp [RuntimeEvent.nextState, hs, RuntimeStatus.toRunState]
    -- the Runtime had started before `r`, so `r` is not the first event
    obtain ⟨r', hmem, hs⟩ := hstarted
    have hr' : r' ∈ log := by
      rcases List.mem_append.mp hmem with h | h
      · exact h
      · obtain rfl := List.mem_singleton.mp h
        exact absurd hs hr
    have ih := ih hpre (fun r h => hadm r (by simp [h])) ⟨r', hr', hs⟩
    cases he : r.event with
    | status e =>
      have hne : e.status ≠ .delivered := by
        intro hd
        have hone : e.sequence = 1 := hadm r (by simp) e he hd
        have hr1 : r.sequence = 1 := by rw [RunEventRecord.sequence, he]; exact hone
        have hpos : 0 < log.length := List.length_pos_of_mem hr'
        have hlen := hr1.symm.trans hseq
        rw [List.length_map] at hlen
        omega
      cases hst : e.status <;>
        simp_all [RuntimeEvent.nextState, RuntimeStatus.toRunState]
    | activity e => exact ih
    | output e => exact ih
    | reply e => exact ih

/-- What a later state keeps of a Run: its log only grows, and not at all once it has ended. -/
def Later (db db' : Central) : Prop :=
  ∀ id run, db.runs.get id = some run → ∃ run', db'.runs.get id = some run' ∧
    db.listEvents id <+: db'.listEvents id ∧
    (run.state.terminal = true → run'.state = run.state ∧
      db'.listEvents id = db.listEvents id)

theorem later_refl (db : Central) : Later db db :=
  fun _ run hget => ⟨run, hget, List.prefix_rfl, fun _ => ⟨rfl, rfl⟩⟩

theorem later_trans {a b c : Central} (h₁ : Later a b) (h₂ : Later b c) : Later a c := by
  intro id run hget
  obtain ⟨run', hget', hpre', hend'⟩ := h₁ id run hget
  obtain ⟨run'', hget'', hpre'', hend''⟩ := h₂ id run' hget'
  refine ⟨run'', hget'', hpre'.trans hpre'', fun hterm => ?_⟩
  obtain ⟨hstate, hlog⟩ := hend' hterm
  obtain ⟨hstate', hlog'⟩ := hend'' (by rw [hstate]; exact hterm)
  exact ⟨hstate'.trans hstate, hlog'.trans hlog⟩

theorem later_of_eq (hruns : db'.runs = db.runs) (hlog : db'.runEvents = db.runEvents) :
    Later db db' := by
  intro id run hget
  refine ⟨run, by rw [hruns]; exact hget, ?_, fun _ => ⟨rfl, listEvents_congr hlog id⟩⟩
  exact ⟨[], by rw [List.append_nil, listEvents_congr hlog]⟩

theorem later_move (h : Move K db db') : Later db db' := by
  cases h with
  | append h adm allowed =>
    rename_i id run event now
    intro id' run' hget
    rw [listEvents_append h.log, h.runs, Table.get_put]
    by_cases hid : id' = id
    · subst hid
      obtain rfl : run = run' := by simpa [h.get] using hget
      refine ⟨_, if_pos rfl, List.prefix_append _ _, fun hterm => ?_⟩
      rw [h.live] at hterm
      cases hterm
    · rw [if_neg hid, if_neg (Ne.symm hid), List.append_nil]
      exact ⟨run', hget, List.prefix_rfl, fun _ => ⟨rfl, rfl⟩⟩
  | createRun fresh key state sequence terminalAt =>
    rename_i id run
    intro id' run' hget
    have hne : id' ≠ id := by
      rintro rfl
      rw [fresh] at hget
      cases hget
    exact ⟨run', by rw [Table.get_put_ne _ _ hne]; exact hget, List.prefix_rfl,
      fun _ => ⟨rfl, rfl⟩⟩
  | openIntent get live first key pending status => exact later_of_eq rfl rfl
  | settleIntent get ended => exact later_of_eq rfl rfl
  | touchIntent get pending => exact later_of_eq rfl rfl
  | deliver known => exact later_of_eq rfl rfl
  | send stored allowed => exact later_of_eq rfl rfl
  | side h => exact later_of_eq h.runs h.runEvents

theorem later_moves (h : Relation.ReflTransGen (Move K) db db') :
    Later db db' := by
  induction h with
  | refl => exact later_refl db
  | tail _ hlast ih => exact later_trans ih (later_move hlast)

theorem later_steps {services : Services} (h : (central services).Reachable db)
    (hs : (central services).Steps db db') :
    Later db db' :=
  central_run later_refl (fun _ _ _ => later_trans) (fun _ _ _ => later_move) h hs

/-- **The Run log.** In every reachable state a Run's stored sequences are `1, …, lastSequence`,
`terminalAt` is set exactly when the state is terminal, and the terminal event is the last one.
In every later state a Run that had ended has the same state and the same log, and a Run whose
Runtime had started is neither queued nor delivered. -/
theorem run_log_final {services : Services} {db : Central}
    (h : (central services).Reachable db) {id : RunId} {run : RunRecord}
    (hget : db.runs.get id = some run) :
    (db.listEvents id).map (·.sequence) = List.range' 1 run.lastSequence ∧
    (run.terminalAt.isSome ↔ run.state.terminal = true) ∧
    (run.state.terminal = true → ∃ pre last e, db.listEvents id = pre ++ [last] ∧
      last.event = .status e ∧ e.status.toRunState = run.state ∧ ∀ r ∈ pre, ¬ r.event.Ends) ∧
    ∀ db', (central services).Steps db db' → ∃ run', db'.runs.get id = some run' ∧
      (run.state.terminal = true → run'.state = run.state ∧
        db'.listEvents id = db.listEvents id) ∧
      ((∃ r ∈ db.listEvents id, r.event.Started) →
        run'.state ≠ .queued ∧ run'.state ≠ .delivered) := by
  have hlog := (logInv_reachable h).runs id run hget
  refine ⟨?_, by rw [hlog.terminalAt], hlog.ended, fun db' hs => ?_⟩
  · have hnum := hlog.numbered
    unfold SeqLog.Numbered at hnum
    rwa [List.length_map, hlog.length] at hnum
  obtain ⟨run', hget', hpre, hend⟩ := later_steps h hs id run hget
  refine ⟨run', hget', hend, ?_⟩
  rintro ⟨r, hr, hstarted⟩
  have hlog' := (logInv_reachable (System.reachable_steps h hs)).runs id run' hget'
  rw [hlog'.state]
  exact started_state hlog'.numbered hlog'.delivered ⟨r, hpre.subset hr, hstarted⟩

/-- A Run that is created, sent, accepted, reported on and completed. -/
def completedHistory : List ((DeviceId → BridgeMessage → Bool) × Op) :=
  [(online, .createRuns [plainRequest 1 1000]),
   (online, .dispatch 10 1),
   (online, .accept plainDevice 1 1 1 1 20 none none),
   (online, .applyStatus plainDevice
      { identity := plainIdentity 1, sequence := 2, status := .working } 30),
   (online, .applyReply plainDevice
      { identity := plainIdentity 1, sequence := 3, content := "done" } 40),
   (online, .applyStatus plainDevice
      { identity := plainIdentity 1, sequence := 4, status := .completed } 50)]

/-- The Run log at the end of that history. -/
theorem completedHistory_final :
    ∃ run, (oneAgent.after plainServices completedHistory).runs.get 1 = some run ∧
      run.state = .completed ∧ run.lastSequence = 4 ∧
      ((oneAgent.after plainServices completedHistory).listEvents 1).map (·.sequence) =
        List.range' 1 run.lastSequence ∧ run.terminalAt.isSome := by
  have h := reachable_after (oneAgent_init plainServices) completedHistory
  obtain ⟨run, hget⟩ : ∃ run, (oneAgent.after plainServices completedHistory).runs.get 1 =
      some run := ⟨_, rfl⟩
  obtain ⟨hseq, hterm, -⟩ := run_log_final h hget
  obtain ⟨hstate, hlast⟩ : run.state = .completed ∧ run.lastSequence = 4 := by
    obtain rfl := Option.some.inj hget
    exact ⟨rfl, rfl⟩
  exact ⟨run, hget, hstate, hlast, hseq, hterm.mpr (by rw [hstate]; rfl)⟩

end AgentRoom
