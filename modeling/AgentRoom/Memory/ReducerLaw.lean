import AgentRoom.Memory.ReducerSweep

/-!
# How far a sweep comes

A Room with messages beyond its checkpoint has a plan exactly when the next message fits the byte
bound. A sweep goes on past a Room whose drain fails as long as the failure can be recorded, which
needs the lease the drain took. And it attempts what its window over the pending Rooms leaves after
those that back off.
-/

namespace AgentRoom.Memory

open Context

/-! ## Plans -/

section Plans

variable {log : RoomLog} {low high limit : Nat}

/-- A range of a log holds the sequences of the range. -/
theorem range_sequences (hhigh : high ≤ log.messages.length) (hlimit : high - low ≤ limit) :
    (log.listMessagesRange low high limit).map (·.sequence) =
      List.range' (low + 1) (high - low) := by
  have hnumbers : (log.messages.filter fun m =>
      low < m.sequence ∧ m.sequence ≤ high).map (·.sequence) =
      (List.range' 1 log.messages.length).filter fun n => low < n ∧ n ≤ high := by
    rw [← log.numbered, List.filter_map]
    rfl
  have hrange : ((List.range' 1 log.messages.length).filter fun n => low < n ∧ n ≤ high) =
      List.range' (low + 1) (high - low) := by
    refine List.Pairwise.eq_of_mem_iff (r := (· < ·))
      (List.Pairwise.filter _ List.pairwise_lt_range')
      List.pairwise_lt_range' fun n => ?_
    rw [List.mem_filter, List.mem_range'_1, List.mem_range'_1, decide_eq_true_iff]
    omega
  unfold RoomLog.listMessagesRange
  rw [List.map_take, hnumbers, hrange, List.take_range'_of_length_le hlimit]

theorem boundedMessages_prefix (bytes : Nat) (messages : List MessageRecord) :
    boundedMessages bytes messages <+: messages := by
  induction messages generalizing bytes with
  | nil => exact List.nil_prefix
  | cons message rest ih =>
    simp only [boundedMessages]
    split
    · exact List.nil_prefix
    · exact List.cons_prefix_cons.mpr ⟨rfl, ih _⟩

variable {messages : List MessageRecord}

theorem consecutive_of_front {front : List MessageRecord} (h : Consecutive low messages)
    (hfront : front <+: messages) : Consecutive low front := by
  unfold Consecutive at *
  have hlength := hfront.length_le
  rw [List.prefix_iff_eq_take.mp hfront, List.map_take, h, List.length_take,
    Nat.min_eq_left hlength, List.take_range'_of_length_ge hlength]

/-- **What a plan is**: the next messages of the Room, one after the other. -/
structure Planned (log : RoomLog) (state : RollingRoomState) (work : ReducerWork) : Prop where
  incremental : work.buildKind = .incremental
  start : work.fromSequenceExclusive = state.latestThroughSequence
  consecutive : Consecutive state.latestThroughSequence work.messages
  some : work.messages ≠ []
  through : work.throughSequence = state.latestThroughSequence + work.messages.length
  logged : ∀ message ∈ work.messages, message ∈ log.messages

/-- The message after the covered ones fits the byte bound of a plan. -/
def NextFits (log : RoomLog) (state : RollingRoomState) : Prop :=
  ∀ message ∈ log.messages, message.sequence = state.latestThroughSequence + 1 →
    message.content.utf8ByteSize ≤ reducerInputUtf8ByteLimit

theorem last_of_consecutive (h : Consecutive low messages) {last : MessageRecord}
    (hlast : messages.getLast? = some last) :
    last.sequence = low + messages.length := by
  have hsequence : (messages.map (·.sequence)).getLast? = some last.sequence := by
    rw [List.getLast?_map, hlast]
    rfl
  rw [h, List.getLast?_range'] at hsequence
  split at hsequence
  · cases hsequence
  · have := Option.some.inj hsequence
    omega

variable {state : RollingRoomState}

/-- The messages a plan chooses from: the next one is the first of them. -/
theorem available_messages (hpending : state.latestThroughSequence < state.desiredThroughSequence)
    (hlogged : state.desiredThroughSequence ≤ log.messages.length) {target : Nat}
    (htarget : target = min state.desiredThroughSequence (state.latestThroughSequence + 32)) :
    ∃ first rest, log.listMessagesRange state.latestThroughSequence target 33 = first :: rest ∧
      first.sequence = state.latestThroughSequence + 1 ∧
      state.latestThroughSequence + (first :: rest).length = target ∧
      Consecutive state.latestThroughSequence (first :: rest) := by
  have hsequences := @range_sequences log state.latestThroughSequence target 33
    (by omega) (by omega)
  -- as many as the plan covers: fewer than the limit of the read
  have hlength := congrArg List.length hsequences
  rw [List.length_map, List.length_range'] at hlength
  cases hmessages : log.listMessagesRange state.latestThroughSequence target 33 with
  | nil =>
    rw [hmessages, List.length_nil] at hlength
    omega
  | cons first rest =>
    rw [hmessages] at hsequences hlength
    refine ⟨first, rest, rfl, ?_, by omega, ?_⟩
    · -- the first one has the number after the checkpoint
      have hhead := congrArg List.head? hsequences
      rw [← hlength, List.length_cons, List.range'_succ] at hhead
      exact Option.some.inj hhead
    · unfold Consecutive
      rw [hsequences, hlength]

/-- **A pending Room has a plan exactly when its next message fits.** -/
theorem planWork_ok_iff
    (hpending : state.latestThroughSequence < state.desiredThroughSequence)
    (hlogged : state.desiredThroughSequence ≤ log.messages.length) :
    (∃ work, planWork log state false = .ok work ∧ Planned log state work) ↔
      NextFits log state := by
  obtain ⟨first, rest, havailable, hfirst, htarget, hconsecutive⟩ :=
    available_messages hpending hlogged rfl
  have hlog : ∀ message ∈ first :: rest, message ∈ log.messages := fun message hmessage =>
    RoomLog.mem_of_listMessagesRange (havailable ▸ hmessage)
  -- the read has no gap, so only the byte bound can refuse the plan
  have hplan : planWork log state false = (boundedMessages 0 (first :: rest)).getLast?.elim
      (throw "Memory reducer input exceeds its byte bound") fun last => pure
        { buildKind := .incremental, fromSequenceExclusive := state.latestThroughSequence
          throughSequence := last.sequence, messages := boundedMessages 0 (first :: rest) } := by
    have hread : ¬(state.latestThroughSequence + (first :: rest).length ≠
        min state.desiredThroughSequence (state.latestThroughSequence + 32) ∨
        ¬Consecutive state.latestThroughSequence (first :: rest)) := by
      rintro (hlength | hgap)
      · exact hlength htarget
      · exact hgap hconsecutive
    unfold planWork
    cases hlast : (boundedMessages 0 (first :: rest)).getLast? with
    | none =>
      simp only [Bool.false_eq_true, if_false, havailable, if_neg hread, hlast, Option.elim_none]
    | some last =>
      simp only [Bool.false_eq_true, if_false, havailable, if_neg hread, hlast, false_and,
        Option.elim_some]
  rw [hplan]
  constructor
  · rintro ⟨work, hwork, -⟩ message hmessage hsequence
    have hnodup : (log.messages.map (·.sequence)).Nodup := log.numbered ▸ List.nodup_range'
    -- there is one message with the next number: the first that was read
    obtain rfl : message = first := List.inj_on_of_nodup_map hnodup hmessage
      (hlog first List.mem_cons_self) (hsequence.trans hfirst.symm)
    by_contra hlarge
    -- a message over the bound leaves nothing of the front
    have hnothing : boundedMessages 0 (message :: rest) = [] := by
      simp only [boundedMessages]
      exact if_pos (by omega)
    rw [hnothing] at hwork
    cases hwork
  · intro hfits
    have hsize := hfits first (hlog first List.mem_cons_self) hfirst
    have hfront := boundedMessages_prefix 0 (first :: rest)
    have hne : boundedMessages 0 (first :: rest) ≠ [] := by
      simp only [boundedMessages]
      rw [if_neg (by omega)]
      exact List.cons_ne_nil _ _
    -- the front that is kept is consecutive too
    have hplanned := consecutive_of_front hconsecutive hfront
    cases hlast : (boundedMessages 0 (first :: rest)).getLast? with
    | none => exact absurd (List.getLast?_eq_none_iff.mp hlast) hne
    | some last =>
      exact ⟨_, rfl, rfl, rfl, hplanned, hne, last_of_consecutive hplanned hlast,
        fun message hmessage => hlog message (hfront.subset hmessage)⟩

end Plans

/-! ## One Room -/

/-- **What holds of a Room**: its watermark is its log's, and what is covered is within it. -/
structure RoomInv (room : ReducerRoom) : Prop where
  desired : room.state.desiredThroughSequence = room.log.messages.length
  covered : room.state.latestThroughSequence ≤ room.state.desiredThroughSequence

section Rooms

variable {room : ReducerRoom} {call : RollingCall} {now : Time}

theorem roomInv_create (roomId : RoomId) (log : RoomLog) (createdAt : Time) :
    RoomInv (.create roomId log createdAt) where
  desired := Nat.zero_max _
  covered := Nat.zero_le _

theorem message_cases (room : ReducerRoom) (message : MessageRecord) :
    room.message message = room ∨
      (room.message message).roomId = room.roomId ∧
      (room.message message).state = { room.state with
        desiredThroughSequence :=
          max room.state.desiredThroughSequence (room.log.messages.length + 1) } ∧
      (room.message message).log.messages =
        room.log.messages ++ [{ message with sequence := room.log.messages.length + 1 }] := by
  unfold ReducerRoom.message
  split
  · exact .inr ⟨rfl, rfl, rfl⟩
  · exact .inl rfl

theorem RoomInv.message (h : RoomInv room) (message : MessageRecord) :
    RoomInv (room.message message) := by
  obtain hsame | ⟨-, hstate, hlog⟩ := message_cases room message
  · rw [hsame]
    exact h
  · have hdesired := h.desired
    have hcovered := h.covered
    constructor
    · rw [hstate, hlog, List.length_append, List.length_singleton]
      exact max_eq_right (by omega)
    · rw [hstate]
      exact hcovered.trans (le_max_left _ _)

theorem commit_within {db db' : RollingMemory} {c : RollingRoomCheckpoint}
    {generation leaseToken : Nat} (h : db.commitCheckpoint c generation leaseToken now = .ok db') :
    c.throughSequence ≤ db.state.desiredThroughSequence := by
  unfold RollingMemory.commitCheckpoint at h
  split_ifs at h with hlease hwater
  all_goals
    push Not at hwater
    exact hwater.1

/-- A call that is no message leaves the watermark and stays within it. -/
theorem RoomInv.called (h : RoomInv room) (hcall : ∀ sequence, call ≠ .message sequence) :
    RoomInv (room.called call now) := by
  -- what keeps both watermarks keeps the invariant
  have hkept : ∀ state : RollingRoomState,
      state.desiredThroughSequence = room.state.desiredThroughSequence →
      state.latestThroughSequence = room.state.latestThroughSequence →
      (room.called call now).state = state → RoomInv (room.called call now) := by
    intro state hdesired hlatest hstate
    constructor
    · rw [hstate, hdesired]
      exact h.desired
    · rw [hstate, hdesired, hlatest]
      exact h.covered
  cases call with
  | message sequence => exact absurd rfl (hcall sequence)
  | enable => exact hkept (room.world.memory.enable).state rfl rfl rfl
  | enableAll =>
    refine hkept (room.world.memory.enableAll).state ?_ ?_ rfl
    all_goals
      unfold RollingMemory.enableAll
      split <;> rfl
  | disable => exact hkept (room.world.memory.disable).state rfl rfl rfl
  | acquireLease leaseToken now leaseExpiresAt =>
    refine hkept _ ?_ ?_ rfl
    all_goals
      simp only [ReducerRoom.called, ReducerRoom.state, RollingWorld.after]
      split
      · rfl
      · split
        · rfl
        · rename_i lease hlease
          unfold RollingMemory.acquireLease at hlease
          split_ifs at hlease
          cases hlease
          rfl
  | recordFailure generation leaseToken =>
    refine hkept (room.world.memory.recordFailure generation leaseToken).state ?_ ?_ rfl
    all_goals
      unfold RollingMemory.recordFailure
      split <;> rfl
  -- a commit alone moves the watermark, up to what was asked for at most
  | commitCheckpoint c generation leaseToken at' =>
    cases hcommit : room.world.memory.commitCheckpoint c generation leaseToken at' with
    | error e =>
      refine hkept room.state rfl rfl ?_
      simp only [ReducerRoom.called, ReducerRoom.state, RollingWorld.after, hcommit]
    | ok memory =>
      have hstate : (room.called (.commitCheckpoint c generation leaseToken at') now).state =
          memory.state := by
        simp only [ReducerRoom.called, ReducerRoom.state, RollingWorld.after, hcommit]
      have hwritten := (committed_of_ok hcommit).state
      constructor
      · rw [hstate, hwritten]
        exact h.desired
      · rw [hstate, hwritten]
        exact commit_within hcommit

theorem RoomInv.plan (h : RoomInv room) (hpending : room.isPending = true) :
    (∃ work, planWork room.log room.state false = .ok work ∧ Planned room.log room.state work) ↔
      NextFits room.log room.state := by
  unfold ReducerRoom.isPending at hpending
  rw [Bool.and_eq_true, decide_eq_true_iff, decide_eq_true_iff] at hpending
  exact planWork_ok_iff hpending.2 h.desired.le

end Rooms

/-! ## Failures -/

/-- The texts that `planWork` and the commit of a plan throw. -/
def refusals : List Err :=
  ["Memory reducer input interval is not contiguous", "Memory reducer input exceeds its byte bound",
    "Bounded rebase cannot cover the current latest checkpoint",
    "Memory reducer output is outside its bounds",
    "Memory reducer provenance is outside its input interval",
    "Rolling Room checkpoint lease is stale",
    "Rolling Room checkpoint is outside the desired watermark",
    "Incremental checkpoint must extend the current latest checkpoint",
    "Rebase checkpoint must start at sequence zero",
    "Checkpoint source count does not match its input interval",
    "Checkpoint provenance must contain bounded unique IDs",
    "Checkpoint source digest must be lowercase SHA-256",
    "Rolling Room checkpoint input is not contiguous",
    "CHECK constraint failed: rolling_room_checkpoints"]

/-- A text that begins with something is not redacted away: where a rule matches there, its mark
stands instead. -/
theorem told_of_head {text : Err} (h : text.toList.head?.any (!isTrimmed ·) = true) :
    isBlank (safeError text) = false := by
  -- one rule: the text is untouched at its head, or begins with the mark
  have hone : ∀ (rule : List Char → Option Nat) (value : List Char),
      value.head?.any (!isTrimmed ·) = true →
      (Rewrite.replaceAll rule redactedMark value).head?.any (!isTrimmed ·) = true := by
    intro rule value hvalue
    cases value with
    | nil => cases hvalue
    | cons c rest =>
      unfold Rewrite.replaceAll Rewrite.scan
      have hmark : redactedMark = '[' :: "REDACTED]".toList := by decide
      split
      · rw [hmark]
        rfl
      · exact hvalue
  -- and so every rule after another, by induction on the rules
  have hall : ∀ (rules : List (List Char → Option Nat)) (value : List Char),
      value.head?.any (!isTrimmed ·) = true →
      (rules.foldl (fun redacted rule => Rewrite.replaceAll rule redactedMark redacted)
        value).head?.any (!isTrimmed ·) = true := by
    intro rules
    induction rules with
    | nil => exact fun _ hvalue => hvalue
    | cons rule rules ih => exact fun value hvalue => ih _ (hone rule value hvalue)
  have hredacted := hall sensitiveRules text.toList h
  unfold isBlank safeError redactSensitiveText
  rw [String.toList_ofList, String.toList_ofList]
  cases hvalue : sensitiveRules.foldl
      (fun redacted rule => Rewrite.replaceAll rule redactedMark redacted) text.toList with
  | nil =>
    rw [hvalue] at hredacted
    cases hredacted
  | cons c rest =>
    rw [hvalue] at hredacted
    have hc : isTrimmed c = false := by simpa using hredacted
    rw [List.take_succ_cons, List.all_cons, hc, Bool.false_and]

theorem refusals_told : ∀ text ∈ refusals, isBlank (safeError text) = false := by
  unfold refusals
  simp only [List.forall_mem_cons]
  refine ⟨?_, ?_, ?_, ?_, ?_, ?_, ?_, ?_, ?_, ?_, ?_, ?_, ?_, ?_, nofun⟩
  all_goals
    refine told_of_head ?_
    rw [String.toList_ofList]
    decide

section Failures

variable {text : Err}

theorem planWork_error {log : RoomLog} {state : RollingRoomState}
    (h : planWork log state false = .error text) : text ∈ refusals := by
  unfold planWork at h
  simp only [Bool.false_eq_true, if_false, false_and] at h
  split at h
  · cases h
    simp [refusals]
  · split at h
    · cases h
      simp [refusals]
    · cases h

variable {db : RollingMemory}

theorem insertCheckpoint_error {row : RollingRoomCheckpoint}
    (h : db.insertCheckpoint row = .error text) : text ∈ refusals := by
  unfold RollingMemory.insertCheckpoint at h
  split_ifs at h
  all_goals cases h <;> simp [refusals]

theorem commitCheckpoint_error {c : RollingRoomCheckpoint} {generation leaseToken : Nat}
    {now : Time} (h : db.commitCheckpoint c generation leaseToken now = .error text) :
    text ∈ refusals := by
  unfold RollingMemory.commitCheckpoint at h
  split_ifs at h
  case neg =>
    cases hinsert : db.insertCheckpoint c with
    | error e =>
      rw [hinsert] at h
      cases h
      exact insertCheckpoint_error hinsert
    | ok inserted =>
      rw [hinsert] at h
      cases h
  all_goals
    cases h
    simp [refusals]

theorem validateReducerOutput_error {output : ReducerOutput} {messages : List MessageRecord}
    (h : validateReducerOutput output messages = .error text) : text ∈ refusals := by
  unfold validateReducerOutput at h
  split_ifs at h
  all_goals cases h <;> simp [refusals]

variable {job : DrainJob}

/-- A commit that is refused says why. -/
theorem commitAnswer_error {answer : DrainAnswer} (houtput : answer.output.isNone = false)
    (h : commitAnswer db job answer = .error text) :
    text ∈ refusals := by
  unfold commitAnswer at h
  split at h
  · rename_i hnone
    rw [hnone] at houtput
    cases houtput
  · rename_i output _
    cases hvalid : validateReducerOutput output job.work.messages with
    | error e =>
      rw [hvalid] at h
      cases h
      exact validateReducerOutput_error hvalid
    | ok u =>
      rw [hvalid] at h
      exact commitCheckpoint_error h

/-- A failure that has something to say is recorded under the lease, and only so. -/
theorem recordFailure_ok_iff {room : ReducerRoom} {generation leaseToken : Nat} {now : Time} :
    (∃ after, room.recordFailure generation leaseToken text now = .ok after) ↔
      isBlank (safeError text) = false ∧ room.state.Holds generation leaseToken := by
  unfold ReducerRoom.recordFailure
  constructor
  · rintro ⟨after, h⟩
    split at h
    · cases h
    · rename_i htold
      split at h
      · rename_i hholds
        exact ⟨Bool.eq_false_iff.mpr htold, hholds⟩
      · cases h
  · rintro ⟨htold, hholds⟩
    rw [if_neg (by rw [htold]; exact Bool.false_ne_true), if_pos hholds]
    exact ⟨_, rfl⟩

/-- **The first half of a drain does not throw**: the lease it fails under was just taken. -/
theorem beginRoom_ok (room : ReducerRoom) (leaseToken : Nat) (now : Time) :
    ∃ after job, beginRoom room leaseToken now = .ok (after, job) := by
  unfold beginRoom
  obtain ⟨later, heq⟩ : ∃ later, later = now + 60000 := ⟨_, rfl⟩
  have hlater : now < later := heq ▸ Nat.lt_add_of_pos_right (by decide)
  rw [← heq]
  split
  · exact ⟨room, none, rfl⟩
  · rename_i lease hlease
    dsimp only
    split
    · exact ⟨_, _, rfl⟩
    · rename_i text hplan
      -- the lease was not expired when it was taken
      have hstate : (room.called (.acquireLease leaseToken now later) now).state = lease := by
        simp only [ReducerRoom.called, ReducerRoom.state, RollingWorld.after, hlease]
        rw [if_neg (Nat.not_le.mpr hlater)]
      -- and it is this worker's
      have hholds : lease.Holds lease.generation leaseToken := by
        unfold RollingMemory.acquireLease at hlease
        split_ifs at hlease
        cases hlease
        exact ⟨rfl, rfl⟩
      obtain ⟨failed, hfailed⟩ := (@recordFailure_ok_iff text
        (room.called (.acquireLease leaseToken now later) now) lease.generation leaseToken
        now).mpr ⟨refusals_told text (planWork_error hplan), by rw [hstate]; exact hholds⟩
      rw [hfailed]
      exact ⟨_, _, rfl⟩

/-- **The second half does not throw** as long as the Room holds the lease and what the reducer
threw has something to say. -/
theorem finishRoom_ok {room : ReducerRoom} {answer : SweepAnswer}
    (hholds : room.state.Holds job.lease.generation job.leaseToken)
    (hthrown : answer.output.isNone = true → isBlank (safeError answer.thrown) = false) :
    ∃ after, finishRoom room job answer = .ok after := by
  unfold finishRoom
  split
  · split <;> exact ⟨_, rfl⟩
  · rename_i text hrefused
    refine recordFailure_ok_iff.mpr ⟨?_, hholds⟩
    cases houtput : answer.output.isNone with
    | true =>
      rw [if_pos rfl]
      exact hthrown houtput
    | false =>
      rw [if_neg Bool.false_ne_true]
      exact refusals_told text (commitAnswer_error houtput hrefused)

/-- It throws when the lease was lost: neither a commit nor a failure is accepted. -/
theorem finishRoom_lost {room : ReducerRoom} {job : DrainJob} {answer : SweepAnswer}
    (hlost : ¬room.state.Holds job.lease.generation job.leaseToken) :
    ∃ text, finishRoom room job answer = .error text := by
  cases hrun : finishRoom room job answer with
  | error text => exact ⟨text, rfl⟩
  | ok after =>
    unfold finishRoom at hrun
    split at hrun
    · rename_i memory hcommit
      unfold commitAnswer at hcommit
      split at hcommit
      · cases hcommit
      · obtain ⟨-, -, hcommitted⟩ := Except.of_bind hcommit
        exact absurd (committed_of_ok hcommitted).holds hlost
    · exact absurd (recordFailure_ok_iff.mp ⟨after, hrun⟩).2 hlost

end Failures

/-! ## What a sweep selects -/

/-- The Rooms `listPending` gives the sweep, without those that back off. -/
def window (rooms : Table RoomId ReducerRoom) (limit : Nat) (now : Time) : List ReducerRoom :=
  (((rooms.rows.filter (·.isPending)).insertionSort (listedBefore · ·)).take
    (min 100 (limit * 4))).filter fun room => !room.isBackingOff now

/-- All Rooms that may be attempted. -/
def eligibleRooms (rooms : Table RoomId ReducerRoom) (now : Time) : List ReducerRoom :=
  rooms.rows.filter (·.isEligible now)

section Selection

variable {rooms : Table RoomId ReducerRoom} {limit : Nat} {now : Time}

/-- **A sweep attempts what its window holds**, up to its limit. -/
theorem select_eq (hlimit : 1 ≤ limit) :
    select rooms limit now = .ok ((window rooms limit now).take limit) := by
  have hlisted : ¬(min 100 (limit * 4) < 1 ∨ 100 < min 100 (limit * 4)) := by omega
  unfold select listPending
  rw [if_neg hlisted]
  rfl

theorem window_subperm : (window rooms limit now).Subperm (eligibleRooms rooms now) := by
  have hall : (((rooms.rows.filter (·.isPending)).insertionSort (listedBefore · ·)).filter
      fun room => !room.isBackingOff now).Perm (eligibleRooms rooms now) := by
    refine ((List.perm_insertionSort _ _).filter _).trans ?_
    rw [List.filter_filter]
    unfold eligibleRooms
    exact .of_eq (List.filter_congr fun room _ => Bool.and_comm _ _)
  exact ((List.take_sublist _ _).filter _).subperm.trans hall.subperm

end Selection

/-! ## What a move does to the Rooms -/

/-- What a move may make of a Room. -/
inductive Changed (move : ReducerMove) : ReducerRoom → ReducerRoom → Prop
  | kept (room : ReducerRoom) : Changed move room room
  | message (room : ReducerRoom) {roomId : RoomId} {message : MessageRecord}
      (sent : move = .message roomId message) : Changed move room (room.message message)
  | called (room : ReducerRoom) {call : RollingCall} (now : Time)
      (quiet : ∀ sequence, call ≠ .message sequence) : Changed move room (room.called call now)
  | trans {a b c : ReducerRoom} (first : Changed move a b) (second : Changed move b c) :
      Changed move a c

/-- Rooms stay, and a new one has its log. -/
structure RoomsStep (move : ReducerMove) (rooms rooms' : Table RoomId ReducerRoom) : Prop where
  grows : ∀ id room, rooms.get id = some room →
    ∃ room', rooms'.get id = some room' ∧ Changed move room room'
  origin : ∀ id room', rooms'.get id = some room' →
    (∃ room, rooms.get id = some room ∧ Changed move room room') ∨
      ∃ log createdAt, move = .addRoom id log createdAt ∧ room' = .create id log createdAt

section RoomSteps

variable {move : ReducerMove} {rooms : Table RoomId ReducerRoom} {w w' : ReducerWorld}

theorem RoomsStep.refl (rooms : Table RoomId ReducerRoom) : RoomsStep move rooms rooms :=
  ⟨fun _ room h => ⟨room, h, .kept room⟩, fun _ room h => .inl ⟨room, h, .kept room⟩⟩

variable {room : ReducerRoom} {room' : ReducerRoom}

theorem RoomsStep.put {id : RoomId} (hget : rooms.get id = some room)
    (hchanged : Changed move room room') : RoomsStep move rooms (rooms.put id room') := by
  constructor
  · intro id' old hold
    by_cases hid : id' = id
    · subst hid
      obtain rfl := Option.mem_unique hget hold
      exact ⟨room', Table.get_put_self _ _ _, hchanged⟩
    · exact ⟨old, by rw [Table.get_put_ne _ _ hid, hold], .kept old⟩
  · intro id' new hnew
    by_cases hid : id' = id
    · subst hid
      rw [Table.get_put_self] at hnew
      cases hnew
      exact .inl ⟨room, hget, hchanged⟩
    · rw [Table.get_put_ne _ _ hid] at hnew
      exact .inl ⟨new, hnew, .kept new⟩

theorem RoomsStep.mapRows {f : ReducerRoom → ReducerRoom}
    (hf : ∀ room, Changed move room (f room)) : RoomsStep move rooms (rooms.mapRows f) := by
  constructor
  · intro id room hroom
    exact ⟨f room, by rw [Table.get_mapRows, hroom]; rfl, hf room⟩
  · intro id room' hroom'
    rw [Table.get_mapRows] at hroom'
    obtain ⟨room, hroom, rfl⟩ := Option.map_eq_some_iff.mp hroom'
    exact .inl ⟨room, hroom, hf room⟩

theorem RoomsStep.onRoom (w : ReducerWorld) (id : RoomId) {f : ReducerRoom → ReducerRoom}
    (hf : ∀ room, Changed move room (f room)) : RoomsStep move w.rooms (w.onRoom id f) := by
  unfold ReducerWorld.onRoom
  split
  · exact .refl _
  · rename_i room hroom
    exact .put hroom (hf room)

variable {after : ReducerRoom} {leaseToken : Nat} {now : Time}

theorem changed_recordFailure {generation : Nat} {text : String}
    (h : room.recordFailure generation leaseToken text now = .ok after) :
    Changed move room after := by
  unfold ReducerRoom.recordFailure at h
  split at h
  · cases h
  · split at h
    · cases h
      exact .called room now nofun
    · cases h

theorem changed_beginRoom {job : Option DrainJob}
    (h : beginRoom room leaseToken now = .ok (after, job)) :
    Changed move room after := by
  unfold beginRoom at h
  split at h
  · cases h
    exact .kept room
  · rename_i lease _
    have hleased : Changed move room
        (room.called (.acquireLease leaseToken now (now + 60000)) now) := .called room now nofun
    dsimp only at h
    split at h
    · cases h
      exact hleased
    · obtain ⟨failed, hfailed, hdone⟩ := Except.of_bind h
      cases hdone
      exact hleased.trans (changed_recordFailure hfailed)

theorem changed_finishRoom {job : DrainJob} {answer : SweepAnswer}
    (h : finishRoom room job answer = .ok after) : Changed move room after := by
  unfold finishRoom at h
  split at h
  · split at h
    · cases h
      exact .kept room
    · cases h
      exact .called room answer.now nofun
  · exact changed_recordFailure h

/-- **What a move does to the Rooms.** -/
theorem rooms_step (h : reducer.step move w w') : RoomsStep move w.rooms w'.rooms := by
  obtain ⟨hadmissible, hafter⟩ := h
  cases move with
  | addRoom id log createdAt =>
    simp only [ReducerWorld.after] at hafter
    split at hafter
    · cases hafter
    · rename_i hnone
      -- a Room is added under an id that was free
      have hfresh := Option.not_isSome_iff_eq_none.mp hnone
      cases hafter
      constructor
      · intro id' room hroom
        have hid : id' ≠ id := by
          rintro rfl
          rw [hfresh] at hroom
          cases hroom
        exact ⟨room, by rw [Table.get_put_ne _ _ hid, hroom], .kept room⟩
      · intro id' room' hroom'
        by_cases hid : id' = id
        · subst hid
          rw [Table.get_put_self] at hroom'
          cases hroom'
          exact .inr ⟨log, createdAt, rfl, rfl⟩
        · rw [Table.get_put_ne _ _ hid] at hroom'
          exact .inl ⟨room', hroom', .kept room'⟩
  | message id message =>
    cases hafter
    exact .onRoom w id fun room => .message room rfl
  | other id call now =>
    cases hafter
    refine .onRoom w id fun room => .called room now ?_
    rintro sequence rfl
    exact hadmissible
  -- a sweep enables every Room before it selects
  | start limit now =>
    simp only [ReducerWorld.after, ReducerWorld.start] at hafter
    split at hafter
    · cases hafter
    · split at hafter
      · cases hafter
        exact .refl _
      · split at hafter
        all_goals
          cases hafter
          exact .mapRows fun room => .called room now (by nofun)
  -- the two halves of a drain write one Room
  | begin leaseToken now =>
    obtain ⟨sweep, -, hbegin⟩ := Option.bind_eq_some_iff.mp hafter
    unfold ReducerWorld.begin at hbegin
    split at hbegin
    · cases hbegin
    · dsimp only at hbegin
      split at hbegin
      · cases hbegin
        exact .refl _
      · rename_i room hroom
        split at hbegin
        · cases hbegin
          exact .refl _
        · rename_i after job hbegun
          cases hbegin
          exact .put hroom (changed_beginRoom hbegun)
  | finish answer =>
    obtain ⟨sweep, -, hfinish⟩ := Option.bind_eq_some_iff.mp hafter
    unfold ReducerWorld.finish at hfinish
    split at hfinish
    · cases hfinish
    · dsimp only at hfinish
      split at hfinish
      · cases hfinish
        exact .refl _
      · rename_i room hroom
        split at hfinish
        · cases hfinish
          exact .refl _
        · rename_i after hfinished
          cases hfinish
          exact .put hroom (changed_finishRoom hfinished)

/-- Every Room is kept under its id, and holds what it should. -/
def RoomsInv (w : ReducerWorld) : Prop :=
  ∀ id room, w.rooms.get id = some room → room.roomId = id ∧ RoomInv room

theorem Changed.keeps (h : Changed move room room') (hinv : RoomInv room) :
    room'.roomId = room.roomId ∧ RoomInv room' := by
  induction h with
  | kept room => exact ⟨rfl, hinv⟩
  | @message room _ message _ =>
    refine ⟨?_, hinv.message message⟩
    obtain hsame | ⟨hid, -, -⟩ := message_cases room message
    · rw [hsame]
    · exact hid
  | called room now quiet => exact ⟨rfl, hinv.called quiet⟩
  | trans _ _ ihFirst ihSecond =>
    obtain ⟨hid, hfirst⟩ := ihFirst hinv
    obtain ⟨hid', hsecond⟩ := ihSecond hfirst
    exact ⟨hid'.trans hid, hsecond⟩

theorem roomsInv_step (h : reducer.step move w w') (hinv : RoomsInv w) : RoomsInv w' := by
  intro id room' hroom'
  obtain ⟨room, hroom, hchanged⟩ | ⟨log, createdAt, -, rfl⟩ := (rooms_step h).origin id room' hroom'
  · obtain ⟨hid, hroomInv⟩ := hinv id room hroom
    obtain ⟨hid', hinv'⟩ := hchanged.keeps hroomInv
    exact ⟨hid'.trans hid, hinv'⟩
  · exact ⟨rfl, roomInv_create id log createdAt⟩

theorem roomsInv_reachable (h : reducer.Reachable w) : RoomsInv w := by
  refine System.invariant RoomsInv ?_ (fun _ _ _ => roomsInv_step) h
  rintro w rfl id room hroom
  cases hroom

end RoomSteps

/-! ## Sweeps that are spared -/

/-- A message that fits the byte bound of a plan. -/
def Fits (message : MessageRecord) : Prop :=
  message.content.utf8ByteSize ≤ reducerInputUtf8ByteLimit

/-- The Rooms as a sweep finds them. -/
def ReducerWorld.enabled (w : ReducerWorld) (now : Time) : Table RoomId ReducerRoom :=
  w.rooms.mapRows fun room => room.called .enableAll now

/-- **What spares a sweep**: messages fit a plan, the window over the pending Rooms holds as many
Rooms to attempt as the limit and their number allow, and when a reducer answers, its Room holds the
lease of the drain and an error has something to say. -/
def Spared : ReducerMove → ReducerWorld → Prop
  | .addRoom _ log _, _ => ∀ message ∈ log.messages, Fits message
  | .message _ message, _ => Fits message
  | .start limit now, w =>
    min limit (eligibleRooms (w.enabled now) now).length ≤
      (window (w.enabled now) limit now).length
  | .finish answer, w =>
    ∀ sweep id job room, w.sweep = some sweep → sweep.job = some (id, job) →
      w.rooms.get id = some room → room.state.Holds job.lease.generation job.leaseToken ∧
        (answer.output.isNone = true → isBlank (safeError answer.thrown) = false)
  | _, _ => True

/-- **What holds of a spared sweep.** -/
structure SweepInv (w : ReducerWorld) (sweep : Sweep) : Prop where
  unbroken : sweep.aborted = false
  /-- The Rooms selected are attempted in turn. -/
  order : sweep.attempted ++ sweep.queue = sweep.selected
  running : ∀ id job, sweep.job = some (id, job) → ∃ room, w.rooms.get id = some room
  full : sweep.selected.length = min sweep.limit sweep.eligible.length
  chosen : ∀ id ∈ sweep.selected, id ∈ sweep.eligible
  distinct : sweep.selected.Nodup

/-- **What holds in every spared run.** -/
structure SparedInv (w : ReducerWorld) : Prop where
  rooms : RoomsInv w
  fits : ∀ id room, w.rooms.get id = some room → ∀ message ∈ room.log.messages, Fits message
  sweeps : ∀ sweep, w.sweep = some sweep → SweepInv w sweep

section Sweeps

variable {move : ReducerMove} {w w' : ReducerWorld}

theorem Changed.fits {room room' : ReducerRoom} (h : Changed move room room')
    (hsent : ∀ id message, move = .message id message → Fits message)
    (hroom : ∀ message ∈ room.log.messages, Fits message) :
    ∀ message ∈ room'.log.messages, Fits message := by
  induction h with
  | kept room => exact hroom
  | @message room _ message sent =>
    obtain hsame | ⟨-, -, hlog⟩ := message_cases room message
    · rw [hsame]
      exact hroom
    · rw [hlog]
      intro logged hlogged
      rcases List.mem_append.mp hlogged with hold | hnew
      · exact hroom logged hold
      · obtain rfl := List.mem_singleton.mp hnew
        exact hsent _ message sent
  | called room now quiet => exact hroom
  | trans _ _ ihFirst ihSecond => exact ihSecond (ihFirst hroom)

variable {sweep : Sweep}

theorem SweepInv.grown (hinv : SweepInv w sweep) (hrooms : RoomsStep move w.rooms w'.rooms) :
    SweepInv w' sweep where
  unbroken := hinv.unbroken
  order := hinv.order
  running id job hjob := by
    obtain ⟨room, hroom⟩ := hinv.running id job hjob
    obtain ⟨room', hroom', -⟩ := hrooms.grows id room hroom
    exact ⟨room', hroom'⟩
  full := hinv.full
  chosen := hinv.chosen
  distinct := hinv.distinct

variable {now : Time}

/-- A spared sweep selects as many Rooms as it may. -/
theorem sweepInv_start {limit : Nat}
    (hkeyed : ∀ id room, w'.rooms.get id = some room → room.roomId = id)
    (hrooms : w'.rooms = w.enabled now) (hspared : Spared (.start limit now) w) (hsweep : sweep =
      { limit, selected := ((window (w.enabled now) limit now).take limit).map (·.roomId)
        attempted := [], queue := ((window (w.enabled now) limit now).take limit).map (·.roomId)
        job := none, aborted := false
        eligible := (eligibleRooms (w.enabled now) now).map (·.roomId) }) : SweepInv w' sweep := by
  have hsub : (window (w.enabled now) limit now).Subperm (eligibleRooms (w.enabled now) now) :=
    window_subperm
  have hlength := hsub.length_le
  have hwindow : min limit (eligibleRooms (w.enabled now) now).length ≤
      (window (w.enabled now) limit now).length := hspared
  -- what is selected is eligible
  have hselected : ∀ room ∈ (window (w.enabled now) limit now).take limit,
      room ∈ eligibleRooms (w.enabled now) now := fun room hroom =>
    hsub.subset (List.mem_of_mem_take hroom)
  -- the ids of the Rooms are their keys
  have hids : ((eligibleRooms (w.enabled now) now).map (·.roomId)).Nodup := by
    refine List.Nodup.sublist (List.filter_sublist.map _) (Table.nodup_rows_map ?_)
    rw [← hrooms]
    exact hkeyed
  subst hsweep
  refine ⟨rfl, rfl, nofun, ?_, ?_, ?_⟩
  · show _ = min limit _
    rw [List.length_map, List.length_map, List.length_take]
    omega
  · intro id hid
    obtain ⟨room, hroom, rfl⟩ := List.mem_map.mp hid
    exact List.mem_map_of_mem (hselected room hroom)
  · -- no Room is selected twice
    obtain ⟨front, hperm, hfront⟩ := hsub
    have hnodup : ((window (w.enabled now) limit now).map (·.roomId)).Nodup :=
      (hperm.map _).nodup_iff.mp (hids.sublist (hfront.map _))
    exact hnodup.sublist ((List.take_sublist _ _).map _)

variable {sweep' : Sweep}

/-- The next Room is begun. -/
theorem sweepInv_begin {leaseToken : Nat} (hinv : SweepInv w sweep)
    (hidle : sweep.job.isNone = true) (h : w.begin sweep leaseToken now = some w')
    (hsweep : w'.sweep = some sweep') :
    SweepInv w' sweep' := by
  have hjob := Option.isNone_iff_eq_none.mp hidle
  unfold ReducerWorld.begin at h
  split at h
  · cases h
  · rename_i id queue hqueue
    -- the Room moves from the queue to those attempted
    have horder : (sweep.attempted ++ [id]) ++ queue = sweep.selected := by
      rw [List.append_assoc, List.singleton_append, ← hqueue]
      exact hinv.order
    dsimp only at h
    split at h
    · cases h
      cases hsweep
      refine ⟨hinv.unbroken, horder, fun _ _ hrun => ?_, hinv.full, hinv.chosen, hinv.distinct⟩
      rw [hjob] at hrun
      cases hrun
    · rename_i room hroom
      -- a failure to plan is recorded, not thrown
      obtain ⟨after, job, hbegun⟩ := beginRoom_ok room leaseToken now
      rw [hbegun] at h
      cases h
      cases hsweep
      refine ⟨hinv.unbroken, horder, fun id' job' hrun => ?_, hinv.full, hinv.chosen, hinv.distinct⟩
      obtain ⟨begun, -, heq⟩ := Option.map_eq_some_iff.mp hrun
      obtain ⟨rfl, -⟩ := Prod.mk.inj heq
      exact ⟨after, Table.get_put_self _ _ _⟩

/-- The reducer answers a Room that holds the lease. -/
theorem sweepInv_finish {answer : SweepAnswer} (hinv : SweepInv w sweep)
    (hcurrent : w.sweep = some sweep) (hspared : Spared (.finish answer) w)
    (h : w.finish sweep answer = some w') (hsweep : w'.sweep = some sweep') :
    SweepInv w' sweep' := by
  unfold ReducerWorld.finish at h
  split at h
  · cases h
  · rename_i id job hjob
    obtain ⟨room, hroom⟩ := hinv.running id job hjob
    obtain ⟨hholds, hthrown⟩ := hspared sweep id job room hcurrent hjob hroom
    obtain ⟨after, hfinished⟩ := finishRoom_ok hholds hthrown
    rw [hroom] at h
    simp only [hfinished] at h
    cases h
    cases hsweep
    exact ⟨hinv.unbroken, hinv.order, nofun, hinv.full, hinv.chosen, hinv.distinct⟩

theorem sparedInv_step (h : (reducer.restrict Spared).step move w w') (hinv : SparedInv w) :
    SparedInv w' := by
  obtain ⟨hspared, hstep⟩ := h
  have hrooms := rooms_step hstep
  have hroomsInv := roomsInv_step hstep hinv.rooms
  refine ⟨hroomsInv, ?_, ?_⟩
  · intro id room' hroom'
    -- each Room was there, or was added under the condition
    obtain ⟨room, hroom, hchanged⟩ | ⟨log, createdAt, rfl, rfl⟩ := hrooms.origin id room' hroom'
    · refine hchanged.fits ?_ (hinv.fits id room hroom)
      rintro id message rfl
      exact hspared
    · exact hspared
  · intro sweep' hsweep
    obtain ⟨hadmissible, hafter⟩ := hstep
    cases move with
    | addRoom id log createdAt =>
      simp only [ReducerWorld.after] at hafter
      split at hafter
      · cases hafter
      · cases hafter
        exact (hinv.sweeps sweep' hsweep).grown hrooms
    | message id message =>
      cases hafter
      exact (hinv.sweeps sweep' hsweep).grown hrooms
    | other id call now =>
      cases hafter
      exact (hinv.sweeps sweep' hsweep).grown hrooms
    -- the start selects; the others go on with the sweep that is there
    | start limit now =>
      simp only [ReducerWorld.after, ReducerWorld.start] at hafter
      split at hafter
      · cases hafter
      · split at hafter
        · cases hafter
          exact hinv.sweeps sweep' hsweep
        · rename_i hlimit
          rw [select_eq (by omega)] at hafter
          cases hafter
          cases hsweep
          exact sweepInv_start (fun id room hroom => (hroomsInv id room hroom).1) rfl hspared rfl
    | begin leaseToken now =>
      obtain ⟨sweep, hfilter, hbegin⟩ := Option.bind_eq_some_iff.mp hafter
      obtain ⟨hcurrent, hidle⟩ := Option.filter_eq_some_iff.mp hfilter
      rw [Bool.and_eq_true] at hidle
      exact sweepInv_begin (hinv.sweeps sweep hcurrent) hidle.2 hbegin hsweep
    | finish answer =>
      obtain ⟨sweep, hfilter, hfinish⟩ := Option.bind_eq_some_iff.mp hafter
      obtain ⟨hcurrent, -⟩ := Option.filter_eq_some_iff.mp hfilter
      exact sweepInv_finish (hinv.sweeps sweep hcurrent) hcurrent hspared hfinish hsweep

theorem sparedInv_reachable (h : (reducer.restrict Spared).Reachable w) : SparedInv w := by
  refine System.invariant SparedInv ?_ (fun _ _ _ => sparedInv_step) h
  rintro w rfl
  exact ⟨nofun, nofun, nofun⟩

end Sweeps

/-- A sweep with Rooms to go begins the next one: a Room without a plan records its failure. -/
theorem begin_next {w : ReducerWorld} {sweep : Sweep} {id : RoomId} {queue : List RoomId}
    (leaseToken : Nat) (now : Time) (hcurrent : w.sweep = some sweep)
    (hunbroken : sweep.aborted = false) (hidle : sweep.job = none)
    (hqueue : sweep.queue = id :: queue) :
    ∃ w' job, reducer.step (.begin leaseToken now) w w' ∧
      w'.sweep = some { sweep with attempted := sweep.attempted ++ [id], queue, job } := by
  have hfilter : (w.sweep.filter fun sweep => !sweep.aborted && sweep.job.isNone) =
      some sweep :=
    Option.filter_eq_some_iff.mpr ⟨hcurrent, by simp [hunbroken, hidle]⟩
  have hafter : w.after (.begin leaseToken now) = w.begin sweep leaseToken now := by
    simp only [ReducerWorld.after, hfilter, Option.bind_some]
  cases hroom : w.rooms.get id with
  | none =>
    have hbegin : w.begin sweep leaseToken now = some
        { w with sweep := some { sweep with attempted := sweep.attempted ++ [id], queue } } := by
      simp only [ReducerWorld.begin, hqueue, hroom]
    exact ⟨_, sweep.job, ⟨trivial, hafter.trans hbegin⟩, rfl⟩
  | some room =>
    obtain ⟨after, job, hbegun⟩ := beginRoom_ok room leaseToken now
    have hbegin : w.begin sweep leaseToken now = some
        { rooms := w.rooms.put id after
          sweep := some { sweep with
            attempted := sweep.attempted ++ [id], queue
            job := job.map fun job => (id, job) } } := by
      simp only [ReducerWorld.begin, hqueue, hroom, hbegun]
    exact ⟨_, _, ⟨trivial, hafter.trans hbegin⟩, rfl⟩

/-! ## The law -/

/-- **How far the reducer comes** from a state of the Rooms and of the sweep. -/
structure ReducerLaw (w : ReducerWorld) : Prop where
  /-- In a spared run every pending Room has a plan: the next messages, in order. -/
  planned : (reducer.restrict Spared).Reachable w → ∀ id room, w.rooms.get id = some room →
    room.isPending = true →
    ∃ work, planWork room.log room.state false = .ok work ∧ Planned room.log room.state work
  /-- No failure, lost lease or Room without a plan ends a sweep: it attempts its Rooms in turn. -/
  continues : (reducer.restrict Spared).Reachable w → ∀ sweep, w.sweep = some sweep →
    sweep.aborted = false ∧ sweep.attempted ++ sweep.queue = sweep.selected
  /-- It selects as many Rooms that may be attempted as its limit allows. -/
  full : (reducer.restrict Spared).Reachable w → ∀ sweep, w.sweep = some sweep →
    sweep.selected.length = min sweep.limit sweep.eligible.length ∧
      (∀ id ∈ sweep.selected, id ∈ sweep.eligible) ∧ sweep.selected.Nodup
  /-- In any run, a pending Room whose next message does not fit has no plan. -/
  fits : reducer.Reachable w → ∀ id room, w.rooms.get id = some room →
    room.isPending = true → ((∃ work, planWork room.log room.state false = .ok work ∧
      Planned room.log room.state work) ↔ NextFits room.log room.state)
  /-- A sweep with Rooms to go can begin the next one. It is not aborted, whether the Room has a
  plan or not. -/
  begins : ∀ sweep id queue leaseToken now, w.sweep = some sweep → sweep.aborted = false →
    sweep.job = none → sweep.queue = id :: queue →
    ∃ w' job, reducer.step (.begin leaseToken now) w w' ∧
      w'.sweep = some { sweep with attempted := sweep.attempted ++ [id], queue, job }
  /-- A reducer that answers a Room whose lease was lost aborts the sweep. -/
  lost : ∀ (sweep : Sweep) (id : RoomId) (job : DrainJob) (room : ReducerRoom)
      (answer : SweepAnswer), sweep.job = some (id, job) → w.rooms.get id = some room →
    ¬room.state.Holds job.lease.generation job.leaseToken →
    w.finish sweep answer =
      some { w with sweep := some { sweep with job := none, aborted := true } }
  /-- A sweep selects what its window holds, up to its limit. -/
  selects : ∀ rooms limit now, 1 ≤ limit →
    select rooms limit now = .ok ((window rooms limit now).take limit)

/-- **The scheduler keeps its law.** -/
theorem reducer_law (w : ReducerWorld) : ReducerLaw w where
  planned h id room hroom hpending := by
    have hinv := sparedInv_reachable h
    refine ((hinv.rooms id room hroom).2.plan hpending).mpr ?_
    intro message hmessage _
    exact hinv.fits id room hroom message hmessage
  continues h sweep hsweep := by
    have hinv := (sparedInv_reachable h).sweeps sweep hsweep
    exact ⟨hinv.unbroken, hinv.order⟩
  full h sweep hsweep := by
    have hinv := (sparedInv_reachable h).sweeps sweep hsweep
    exact ⟨hinv.full, hinv.chosen, hinv.distinct⟩
  fits h id room hroom hpending := (roomsInv_reachable h id room hroom).2.plan hpending
  begins _ _ _ leaseToken now := begin_next leaseToken now
  lost sweep id job room answer hjob hroom hlost := by
    obtain ⟨text, hthrown⟩ := @finishRoom_lost room job answer hlost
    unfold ReducerWorld.finish
    rw [hjob]
    simp only [hroom, hthrown]
  selects _ _ _ := select_eq

/-! ## Runs -/

section Runs

variable {moves : List ReducerMove} {w w' : ReducerWorld}
  {after : ReducerWorld → ReducerMove → Option ReducerWorld}

theorem reachable_of_run {system : System ReducerWorld ReducerMove}
    (hstep : ∀ move ∈ moves, ∀ w w', after w move = some w' → system.step move w w')
    (h : system.Reachable w) (hrun : moves.foldlM after w = some w') : system.Reachable w' := by
  induction moves generalizing w with
  | nil =>
    cases hrun
    exact h
  | cons move moves ih =>
    rw [List.foldlM_cons] at hrun
    obtain ⟨middle, hfirst, hrest⟩ := Option.bind_eq_some_iff.mp hrun
    obtain ⟨hmove, hmoves⟩ := List.forall_mem_cons.mp hstep
    exact ih hmoves (System.reachable_step h (hmove w middle hfirst)) hrest

/-- A list of moves leads to a sweep that is checked. -/
theorem sweep_of_run (system : System ReducerWorld ReducerMove) (check : Sweep → Bool)
    (hstep : ∀ move ∈ moves, ∀ w w', after w move = some w' → system.step move w w')
    (hinit : system.init .blank)
    (h : ((moves.foldlM after .blank).bind (·.sweep)).any check = true) :
    ∃ w sweep, system.Reachable w ∧ w.sweep = some sweep ∧ check sweep = true := by
  cases hrun : moves.foldlM after .blank with
  | none =>
    rw [hrun] at h
    cases h
  | some w =>
    rw [hrun, Option.bind_some] at h
    cases hsweep : w.sweep with
    | none =>
      rw [hsweep] at h
      cases h
    | some sweep =>
      rw [hsweep, Option.any_some] at h
      exact ⟨w, sweep, reachable_of_run hstep (System.reachable_init hinit) hrun, hsweep, h⟩

def stallMessage (messageId : MessageId) (content : String) : MessageRecord where
  messageId
  traceId := 0
  roomId := 0
  taskId := 0
  sequence := 1
  senderType := .member
  senderId := 0
  content
  parentMessageId := none
  createdAt := 0

/-- A Room with one message. -/
def stallLog (messageId : MessageId) (content : String) : RoomLog where
  messages := [stallMessage messageId content]
  numbered := rfl
  distinct := List.nodup_singleton _

/-- The reducer throws. -/
def stallAnswer (now : Time) : SweepAnswer where
  output := none
  checkpointId := 0
  sourceDigest := ""
  promptVersion := 0
  createdAt := now
  now
  thrown := "no"

instance (move : ReducerMove) (w : ReducerWorld) : Decidable (Spared move w) :=
  match move with
  | .addRoom .. => inferInstanceAs (Decidable (∀ message ∈ _, _ ≤ _))
  | .message .. => inferInstanceAs (Decidable (_ ≤ _))
  | .start .. => inferInstanceAs (Decidable (_ ≤ _))
  | .other .. | .begin .. => inferInstanceAs (Decidable True)
  | .finish answer =>
    decidable_of_iff (∀ sweep ∈ w.sweep, ∀ job ∈ sweep.job, ∀ room ∈ w.rooms.get job.1,
      room.state.Holds job.2.lease.generation job.2.leaseToken ∧
        (answer.output.isNone = true → isBlank (safeError answer.thrown) = false))
      ⟨fun h sweep id job room hsweep hjob hroom => h sweep hsweep (id, job) hjob room hroom,
        fun h sweep hsweep _ hjob room hroom => h sweep _ _ room hsweep hjob hroom⟩

/-- Two Rooms are swept, and the reducer fails in both. -/
def sparedSweep : List ReducerMove :=
  [.addRoom 1 (stallLog 1 "a") 0, .addRoom 2 (stallLog 2 "b") 0, .start 2 0, .begin 7 0,
    .finish (stallAnswer 1), .begin 8 2, .finish (stallAnswer 3)]

/-- A spared sweep comes to its end, whatever its reducer throws. -/
theorem sparedSweep_attempts : ∃ w sweep, ReducerLaw w ∧
    (reducer.restrict Spared).Reachable w ∧ w.sweep = some sweep ∧ sweep.attempted = [1, 2] := by
  have hadmissible : ∀ move ∈ sparedSweep, move.Admissible := by
    simp [sparedSweep, ReducerMove.Admissible]
  have hstep : ∀ move ∈ sparedSweep, ∀ w w',
      (if Spared move w then w.after move else none) = some w' →
        (reducer.restrict Spared).step move w w' := by
    intro move hmove w w' h
    split at h
    · next hspared => exact ⟨hspared, hadmissible move hmove, h⟩
    · cases h
  obtain ⟨w, sweep, hreachable, hsweep, hcheck⟩ := sweep_of_run (reducer.restrict Spared)
    (fun sweep => sweep.attempted = [1, 2]) hstep rfl (by decide +kernel)
  exact ⟨w, sweep, reducer_law w, hreachable, hsweep, of_decide_eq_true hcheck⟩

/-! ## Runs in which it stalls -/

/-- Another worker takes the first of two Rooms over, as its lease expired. -/
def stallTakeover : List ReducerMove :=
  [.addRoom 1 (stallLog 1 "a") 0, .addRoom 2 (stallLog 2 "b") 0, .start 2 0, .begin 7 0,
    .other 1 (.acquireLease 9 60000 120000) 60000, .finish (stallAnswer 61000)]

/-- A Room with two messages fails. -/
def stallFailure (roomId : RoomId) : List ReducerMove :=
  [.addRoom roomId (stallLog roomId "a") 0, .message roomId (stallMessage (roomId + 10) "b"),
    .start 1 0, .begin roomId 0, .finish (stallAnswer 0)]

/-- Four Rooms have failed when a fifth appears. -/
def stallCrowd : List ReducerMove :=
  stallFailure 1 ++ stallFailure 2 ++ stallFailure 3 ++ stallFailure 4 ++
    [.addRoom 5 (stallLog 5 "a") 0, .start 1 1]

theorem utf8ByteSize_replicate (n : Nat) (c : Char) :
    (String.ofList (List.replicate n c)).utf8ByteSize = n * c.utf8Size := by
  induction n with
  | zero => simp
  | succ n ih =>
    rw [List.replicate_succ, String.ofList_cons, String.utf8ByteSize_append,
      String.utf8ByteSize_singleton, ih, Nat.succ_mul, Nat.add_comm]

theorem unplannable_of_long {content : String}
    (hlong : reducerInputUtf8ByteLimit < content.utf8ByteSize) :
    ∃ w room, reducer.Reachable w ∧ w.rooms.get 1 = some room ∧ room.isPending = true ∧
      ¬∃ work, planWork room.log room.state false = .ok work ∧
        Planned room.log room.state work := by
  have hadmissible : ∀ move ∈ [ReducerMove.addRoom 1 (stallLog 1 content) 0, .other 1 .enable 0],
      move.Admissible := by
    simp [ReducerMove.Admissible, RollingCall.Drained]
  have hreachable : reducer.Reachable _ := reachable_of_run
    (fun move hmove w w' h => ⟨hadmissible move hmove, h⟩) (System.reachable_init rfl) rfl
  refine ⟨_, _, hreachable, rfl, rfl, fun hplan => ?_⟩
  have hfits := (planWork_ok_iff Nat.zero_lt_one (Nat.le_refl 1)).mp hplan
  exact absurd (hfits (stallMessage 1 content) (List.mem_singleton_self _) rfl)
    (Nat.not_le_of_lt hlong)

end Runs

/-- A Room whose message is too long has no plan, a lease lost to another worker aborts a sweep
with a Room to go, and four Rooms that back off keep a sweep from the fifth. -/
theorem reducer_stalls :
    (¬∀ w, reducer.Reachable w → ∀ id room, w.rooms.get id = some room → room.isPending = true →
      ∃ work, planWork room.log room.state false = .ok work ∧ Planned room.log room.state work) ∧
    (¬∀ w, reducer.Reachable w → ∀ sweep, w.sweep = some sweep →
      sweep.aborted = true → sweep.queue = []) ∧
    (¬∀ w, reducer.Reachable w → ∀ sweep, w.sweep = some sweep →
      sweep.selected.length = min sweep.limit sweep.eligible.length) := by
  refine ⟨fun hplanned => ?_, fun hcontinues => ?_, fun hfull => ?_⟩
  · -- the long message: 20000 characters of four bytes
    have hlong : reducerInputUtf8ByteLimit <
        (String.ofList (List.replicate 20000 '😀')).utf8ByteSize := by
      rw [utf8ByteSize_replicate]
      decide
    obtain ⟨w, room, hreachable, hroom, hpending, hno⟩ := unplannable_of_long hlong
    exact hno (hplanned w hreachable 1 room hroom hpending)
  · -- the lost lease: another worker takes the Room over
    have hadmissible : ∀ move ∈ stallTakeover, move.Admissible := by
      simp [stallTakeover, ReducerMove.Admissible, RollingCall.Drained]
    obtain ⟨w, sweep, hreachable, hsweep, hcheck⟩ := sweep_of_run reducer
      (fun sweep => sweep.aborted && sweep.queue = [2])
      (fun move hmove w w' h => ⟨hadmissible move hmove, h⟩) rfl (by decide +kernel)
    rw [Bool.and_eq_true, decide_eq_true_iff] at hcheck
    have hnone := hcontinues w hreachable sweep hsweep hcheck.1
    rw [hcheck.2] at hnone
    cases hnone
  · -- the crowd: four Rooms ahead of the only eligible one
    have hadmissible : ∀ move ∈ stallCrowd, move.Admissible := by
      simp [stallCrowd, stallFailure, ReducerMove.Admissible]
    obtain ⟨w, sweep, hreachable, hsweep, hcheck⟩ := sweep_of_run reducer
      (fun sweep => sweep.selected = [] ∧ sweep.limit = 1 ∧ sweep.eligible = [5])
      (fun move hmove w w' h => ⟨hadmissible move hmove, h⟩) rfl (by decide +kernel)
    obtain ⟨hselected, hlimit, heligible⟩ := of_decide_eq_true hcheck
    have hlength := hfull w hreachable sweep hsweep
    rw [hselected, hlimit, heligible] at hlength
    cases hlength

end AgentRoom.Memory
