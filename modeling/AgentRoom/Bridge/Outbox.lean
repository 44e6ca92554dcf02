import AgentRoom.Run.Moves
import AgentRoom.Bridge.Invariant

/-!
# The outbox has no gaps

The events of every record are numbered `2, 3, …` up to its last sequence, so that
a replay, the acceptance followed by the events, never meets a gap at the server,
whatever part of it was applied before. The server's check is the one of
`applyRuntimeEvent`.
-/

namespace AgentRoom.Bridge

open RuntimeExecutor

/-! ## The receiver -/

/-- **The server's sequence check**, for a Run that has not ended, is the receiver of numbered
logs. -/
theorem applyRuntimeEvent_receive {id : RunId} {run : RunRecord} {db : Central}
    (hget : db.runs.get id = some run) (hlive : run.state.terminal = false)
    (event : AgentRoom.RuntimeEvent) (now : Time) :
    RunRepository.applyRuntimeEvent id event now db =
      match SeqLog.receive run.lastSequence event.sequence with
      | none => (.error s!"Run event sequence gap: {event.sequence}", db)
      | some last =>
        if last = run.lastSequence then (.ok { applied := false, run }, db)
        else Tx.immediate (RunRepository.commitRuntimeEvent id run event now) db := by
  unfold RunRepository.applyRuntimeEvent SeqLog.receive
  unfold Tx.immediate
  rw [RunRepository.getRun_bind, hget]
  by_cases hle : event.sequence ≤ run.lastSequence
  · simp [hle]
  · by_cases hnext : event.sequence = run.lastSequence + 1
    · have hnot : ¬ run.lastSequence + 1 ≤ run.lastSequence := Nat.not_succ_le_self _
      simp [hnext, hlive, hnot]
    · simp [hle, hnext, hlive]

/-! ## The replay -/

/-- The sequence of what is sent about a Run; supplemental evidence has none. -/
def Outgoing.sequence? : Outgoing → Option Nat
  | .accepted message => some message.sequence
  | .event message => message.sequence?

theorem privateReasoningReplay_sequence (message : OutboxMessage) :
    (privateReasoningReplay message).sequence? = message.sequence? := by
  unfold privateReasoningReplay
  split
  · split <;> rfl
  · rfl

theorem replayEvents_sequence (config : Config) (record : Record) :
    (replayEvents config record).filterMap Outgoing.sequence? = record.sequences := by
  unfold replayEvents Record.sequences
  rw [List.filterMap_map]
  congr 1
  funext message
  by_cases hshare : config.shareReasoningSummaries = true
  · simp [hshare, Outgoing.sequence?]
  · simp [hshare, Outgoing.sequence?, privateReasoningReplay_sequence]

/-- **The acceptance of a Run and the replay of its record.** -/
def acceptedReplay (config : Config) (record : Record) (materializations : Option (List Json))
    (materializationFailed : Bool) : List Outgoing :=
  acceptedMessage record.request materializations materializationFailed ::
    replayEvents config record

theorem acceptedReplay_sequence (config : Config) (record : Record)
    (materializations : Option (List Json)) (materializationFailed : Bool) :
    (acceptedReplay config record materializations materializationFailed).filterMap
      Outgoing.sequence? = 1 :: record.sequences := by
  unfold acceptedReplay
  rw [List.filterMap_cons, replayEvents_sequence]
  rfl

theorem Record.Wf.replayed {runId : String} {record : Record} (h : record.Wf runId)
    (applied : Nat) :
    SeqLog.receiveAll applied (1 :: record.sequences) = some (max applied record.lastSequence) := by
  have hnumbered : SeqLog.Numbered 1 (1 :: record.sequences) :=
    SeqLog.numbered_cons.mpr h.numbered
  have hall : SeqLog.receiveAll applied (1 :: record.sequences) = _ :=
    SeqLog.receiveAll_numbered hnumbered (by omega)
  have hlast := h.last
  rw [hall, List.length_cons]
  congr 1
  omega

/-- **The outbox is contiguous.** In every reachable state of the Bridge, a record's events carry
`2, …, lastSequence` in order, supplemental evidence aside; and the acceptance followed by their
replay is taken by the server's sequence check without a gap, whatever it applied before. -/
theorem outbox_contiguous (config : Config) (adapters : List String) (w : World)
    (h : (bridge config adapters).Reachable w) (runId : String) (record : Record)
    (hget : w.inbox.records.get runId = some record) :
    record.sequences = List.range' 2 (record.lastSequence - 1) ∧
    (∀ materializations materializationFailed applied,
      SeqLog.receiveAll applied
        ((acceptedReplay config record materializations materializationFailed).filterMap
          Outgoing.sequence?) = some (max applied record.lastSequence)) ∧
    (∀ (id : RunId) (run : RunRecord) (db : Central) (event : AgentRoom.RuntimeEvent) (now : Time),
      db.runs.get id = some run → run.state.terminal = false →
      RunRepository.applyRuntimeEvent id event now db =
        match SeqLog.receive run.lastSequence event.sequence with
        | none => (.error s!"Run event sequence gap: {event.sequence}", db)
        | some last =>
          if last = run.lastSequence then (.ok { applied := false, run }, db)
          else Tx.immediate (RunRepository.commitRuntimeEvent id run event now) db) := by
  have hw := (inv_reachable h).sound.wf runId record hget
  refine ⟨?_, fun materializations materializationFailed applied => ?_, ?_⟩
  · have hnumbered : record.sequences = List.range' 2 record.sequences.length := hw.numbered
    have hlast := hw.last
    have hlength : record.sequences.length = record.lastSequence - 1 := by omega
    rw [hlength] at hnumbered
    exact hnumbered
  · rw [acceptedReplay_sequence]
    exact hw.replayed applied
  · intro id run db event now hrun hlive
    exact applyRuntimeEvent_receive hrun hlive event now

/-- A Run whose adapter reported twice that it works. -/
def workingRun : Option World :=
  World.blank.play plainConfig [sampleRequest.targetAgentId]
    (emitting 2 { status := some .working }) (connecting ++ delivering 20)

theorem workingRun_facts :
    workingRun.map (fun w => (w.inbox.records.get sampleRequest.runId).map Record.sequences) =
      some (some [2, 3]) := by
  decide +kernel

/-- The working Run's two events are replayed without a gap to a server that has neither. -/
theorem workingRun_contiguous : ∃ record : Record, record.sequences = [2, 3] ∧
    ∀ materializations materializationFailed,
      SeqLog.receiveAll 0
        ((acceptedReplay plainConfig record materializations materializationFailed).filterMap
          Outgoing.sequence?) = some (max 0 record.lastSequence) := by
  obtain ⟨w, hw, hfacts⟩ := Option.map_eq_some_iff.mp workingRun_facts
  obtain ⟨record, hget, hsequences⟩ := Option.map_eq_some_iff.mp hfacts
  have hreach := System.reachable_steps
    (World.blank_reachable plainConfig [sampleRequest.targetAgentId])
    (World.play_steps _ _ _ hw)
  obtain ⟨-, hreplay, -⟩ := outbox_contiguous _ _ w hreach _ record hget
  exact ⟨record, hsequences, fun materializations failed => hreplay materializations failed 0⟩

end AgentRoom.Bridge
