import AgentRoom.Hosted.Invocations
import AgentRoom.Hosted.RunWrites

/-!
# An intent and its Run agree

`HostedInv` is what every transaction of the Hosted services keeps: an intent past its
dispatch belongs to a delivered Run, a settled intent shows the outcome of its ended Run,
and a Hosted Agent's Run under way has left `prepared` behind. `CalmRows` is what every
transaction but the dispatch itself does to the intents.
-/

namespace AgentRoom.Hosted

open Tx RunRepository HostedInvocationRepository

/-- What a settled intent shows of the state its Run ended in. -/
def outcomeOf (row : HostedInvocationRecord) (run : RunState) : HostedInvocationState :=
  if run = .canceled ∧ row.dispatchedAt.isSome then .outcomeUnknown else invocationState run

/-- **An intent agrees with its Run.** -/
structure Agrees (db : Central) (row : HostedInvocationRecord) (run : RunRecord) : Prop where
  started : row.dispatchedAt.isSome = true → run.state ≠ .queued ∧ Delivered db row.runId
  settled : row.state.terminal = true →
    run.state.terminal = true ∧ row.state = outcomeOf row run.state

/-- **The invariant of the Hosted tables.** -/
structure HostedInv (db : HostedDb) : Prop where
  keyed : Keyed db.central
  row : ∀ id row, db.invocations.get id = some row → row.val.runId = id ∧
    ∃ run, db.central.runs.get id = some run ∧ isHosted db.central run.targetAgentId = true ∧
      Agrees db.central row.val run
  waiting : ∀ id run, db.central.runs.get id = some run →
    isHosted db.central run.targetAgentId = true → run.state ≠ .queued →
    run.state.terminal = false →
    ∃ row, db.invocations.get id = some row ∧ row.val.state ≠ .prepared

/-! ## What the checks say -/

variable {row : HostedInvocationRecord}

theorem dispatched_of_valid (h : row.valid = true) :
    (row.state = .dispatching ∨ row.state = .streaming ∨ row.state = .completed ∨
      row.state = .outcomeUnknown) → row.dispatchedAt.isSome = true := by
  intro hstate
  unfold HostedInvocationRecord.valid at h
  rcases hstate with hs | hs | hs | hs <;> rw [hs] at h <;> simp_all

theorem undispatched_of_prepared (h : row.valid = true) (hs : row.state = .prepared) :
    row.dispatchedAt = none := by
  unfold HostedInvocationRecord.valid at h
  rw [hs] at h
  simp_all

theorem outcomeOf_undispatched (h : row.dispatchedAt = none) (run : RunState) :
    outcomeOf row run = invocationState run := by
  unfold outcomeOf
  rw [h]
  exact if_neg fun hd => Bool.noConfusion hd.2

def stateOf (db : HostedDb) (id : RunId) : Option HostedInvocationState :=
  (db.invocations.get id).map (·.val.state)

/-- A change of an intent that does not dispatch it. -/
def calm : Option HostedInvocationState → Option HostedInvocationState → Bool
  | none, none => true
  | none, some s => s = .prepared || s = .failed || s = .canceled
  | some s, some s' => s' = s || (legalTransition s s' && s' ≠ .dispatching)
  | some _, none => false

theorem calm_refl (o : Option HostedInvocationState) : calm o o = true := by
  cases o with
  | none => rfl
  | some s => simp [calm]

theorem calm_trans {a b c : Option HostedInvocationState} (h₁ : calm a b = true)
    (h₂ : calm b c = true) : calm a c = true := by
  revert h₁ h₂
  cases a with
  | none =>
    cases b with
    | none => exact fun _ h => h
    | some s =>
      cases c with
      | none => exact nofun
      | some s' => cases s <;> cases s' <;> decide
  | some r =>
    cases b with
    | none => exact nofun
    | some s =>
      cases c with
      | none => exact nofun
      | some s' => cases r <;> cases s <;> cases s' <;> decide

/-- **No intent is dispatched.** -/
def CalmRows (db db' : HostedDb) : Prop := ∀ id, calm (stateOf db id) (stateOf db' id) = true

theorem CalmRows.refl (db : HostedDb) : CalmRows db db := fun _ => calm_refl _

theorem CalmRows.trans {a b c : HostedDb} (h₁ : CalmRows a b) (h₂ : CalmRows b c) :
    CalmRows a c := fun id => calm_trans (h₁ id) (h₂ id)

variable {db : HostedDb} {id : RunId} {c : Central}

theorem CalmRows.put {stored : StoredInvocation}
    (h : calm (stateOf db id) (some stored.val.state) = true) :
    CalmRows db ⟨c, db.invocations.put id stored⟩ := by
  intro id'
  unfold stateOf
  by_cases hid : id' = id
  · subst hid
    rw [Table.get_put_self]
    exact h
  · rw [Table.get_put_ne _ _ hid]
    exact calm_refl _

/-! ## Keeping the invariant -/

theorem isHosted_congr {db db' : Central} (h : db'.agents = db.agents) (agentId : AgentId) :
    isHosted db' agentId = isHosted db agentId := by
  unfold isHosted
  rw [h]

theorem Agrees.onward {db db' : Central} {run run' : RunRecord} (h : Agrees db row run)
    (hon : Onward db db') (hended : run.state.terminal = true → run'.state = run.state)
    (hstarted : run.state ≠ .queued → run'.state ≠ .queued) : Agrees db' row run' := by
  refine ⟨fun hd => ?_, fun ht => ?_⟩
  · obtain ⟨hq, hdel⟩ := h.started hd
    exact ⟨hstarted hq, hon.delivered hdel⟩
  · obtain ⟨hend, hstate⟩ := h.settled ht
    have hsame := hended hend
    rw [hsame]
    exact ⟨hend, hstate⟩

/-- **One Run and its intent change.** The others keep what they have. -/
theorem HostedInv.write {becomes : RunState → RunState → Prop}
    {invocations : Table RunId StoredInvocation} (h : HostedInv db)
    (hw : RunWrite id becomes db.central c) (hq : ∀ s s', becomes s s' → s ≠ .queued → s' ≠ .queued)
    (hother : ∀ id', id' ≠ id → invocations.get id' = db.invocations.get id')
    (hrow : ∀ row, invocations.get id = some row → row.val.runId = id ∧
      ∃ run, c.runs.get id = some run ∧ isHosted db.central run.targetAgentId = true ∧
        Agrees c row.val run)
    (hwaiting : ∀ run, c.runs.get id = some run → isHosted db.central run.targetAgentId = true →
      run.state ≠ .queued → run.state.terminal = false →
      ∃ row, invocations.get id = some row ∧ row.val.state ≠ .prepared) :
    HostedInv ⟨c, invocations⟩ := by
  have hon := hw.onward hq
  refine ⟨hw.keyed h.keyed, fun id' row hget => ?_, fun id' run hget hhosted hnq hlive => ?_⟩
  · by_cases hid : id' = id
    · subst hid
      obtain ⟨hkey, run, hrun, hhosted, hagrees⟩ := hrow row hget
      exact ⟨hkey, run, hrun, by rw [isHosted_congr hw.agents]; exact hhosted, hagrees⟩
    · have hget' : db.invocations.get id' = some row := (hother id' hid).symm.trans hget
      obtain ⟨hkey, run, hrun, hhosted, hagrees⟩ := h.row id' row hget'
      refine ⟨hkey, run, (hw.other id' hid).trans hrun, ?_,
        hagrees.onward hon (fun _ => rfl) fun h => h⟩
      rw [isHosted_congr hw.agents]
      exact hhosted
  · rw [isHosted_congr hw.agents] at hhosted
    by_cases hid : id' = id
    · subst hid
      exact hwaiting run hget hhosted hnq hlive
    · obtain ⟨row, hrow, hpast⟩ :=
        h.waiting id' run ((hw.other id' hid).symm.trans hget) hhosted hnq hlive
      exact ⟨row, (hother id' hid).trans hrow, hpast⟩

/-- **One Run changes and its intent does not.** -/
theorem HostedInv.writeRun {becomes : RunState → RunState → Prop} (h : HostedInv db)
    (hw : RunWrite id becomes db.central c) (hq : ∀ s s', becomes s s' → s ≠ .queued → s' ≠ .queued)
    (hends : (∀ s s', becomes s s' → s' = s ∨ s'.terminal = true) ∨
      ∃ row, db.invocations.get id = some row ∧ row.val.state ≠ .prepared) :
    HostedInv ⟨c, db.invocations⟩ := by
  have hon := hw.onward hq
  refine h.write hw hq (fun _ _ => rfl) (fun row hget => ?_) fun run hget hhosted hnq hlive => ?_
  · obtain ⟨hkey, run, hrun, hhosted, hagrees⟩ := h.row id row hget
    obtain ⟨run', hrun', htarget, hended, hstarted⟩ := hon.run id run hrun
    exact ⟨hkey, run', hrun', by rw [htarget]; exact hhosted, hagrees.onward hon hended hstarted⟩
  · rcases hends with hends | hpast
    · rcases hw.self with hsame | ⟨run₀, run', hget₀, hget', hlive₀, _, htarget, hbecomes⟩
      · exact h.waiting id run (hsame.symm.trans hget) hhosted hnq hlive
      · obtain rfl := Option.mem_unique hget hget'
        rcases hends _ _ hbecomes with hsame | hterminal
        · refine h.waiting id run₀ hget₀ (by rw [← htarget]; exact hhosted) ?_ hlive₀
          rw [← hsame]
          exact hnq
        · rw [hlive] at hterminal
          cases hterminal
    · exact hpast

/-- **One intent changes and its Run does not.** -/
theorem HostedInv.writeRow {stored stored' : StoredInvocation} (h : HostedInv db)
    (hget : db.invocations.get id = some stored) (hkey : stored'.val.runId = stored.val.runId)
    (hpast : stored.val.state ≠ .prepared → stored'.val.state ≠ .prepared)
    (hagrees : ∀ run, db.central.runs.get id = some run →
      Agrees db.central stored.val run → Agrees db.central stored'.val run) :
    HostedInv ⟨db.central, db.invocations.put id stored'⟩ := by
  have hsame : RunWrite id (fun s s' => s' = s) db.central db.central := RunWrite.refl db.central
  refine h.write hsame (fun s s' hs hq => by rw [hs]; exact hq)
    (fun id' hne => Table.get_put_ne _ _ hne)
    (fun row hrow => ?_) fun run hrun hhosted hnq hlive => ?_
  · rw [Table.get_put_self] at hrow
    obtain rfl := Option.some.inj hrow
    obtain ⟨hid, run, hrun, hhosted, hag⟩ := h.row id stored hget
    exact ⟨hkey.trans hid, run, hrun, hhosted, hagrees run hrun hag⟩
  · obtain ⟨row, hrow, hp⟩ := h.waiting id run hrun hhosted hnq hlive
    obtain rfl := Option.mem_unique hget hrow
    exact ⟨stored', Table.get_put_self _ _ _, hpast hp⟩

end AgentRoom.Hosted
