import AgentRoom.Memory.Entries

/-!
# The law of memory entries

Every write appends its events under the next revisions of its scope and changes of an older row
only what it closes. So the events up to a revision, once reached, stay what they are, and with them
the view of the scope at that revision.
-/

namespace AgentRoom.Memory

open Tx
open Results (MemoryId)

/-- What no update of a row changes. -/
def MemoryEntryRecord.evidence (row : MemoryEntryRecord) : MemoryEntryRecord :=
  { row with state := .active, revision := 0, updatedAt := row.createdAt }

namespace MemoryDb

/-- The revision a scope stands at. -/
def reached (db : MemoryDb) (scopeKind : MemoryScopeKind) (scopeId : Nat) : Nat :=
  (db.scopeRevision scopeKind scopeId).getD 0

/-- The events of a scope. -/
def eventsOf (db : MemoryDb) (scopeKind : MemoryScopeKind) (scopeId : Nat) : List LifecycleEvent :=
  db.events.filter fun event => event.scopeKind = scopeKind && event.scopeId = scopeId

/-- The tables with a row and its event written. -/
def written (db : MemoryDb) (row : MemoryEntryRecord) : MemoryDb :=
  { db with entries := db.entries.put row.memoryId row, events := db.events ++ [row.event] }

end MemoryDb

/-! ## What each write does -/

section Writes

variable {db db' : MemoryDb} {scopeKind : MemoryScopeKind} {scopeId revision : Nat} {n : Nat}

theorem scopeRevision_withRevision (h : db.scopeRevision scopeKind scopeId = some n)
    (kind : MemoryScopeKind) (id : Nat) :
    (db.withRevision scopeKind scopeId revision).scopeRevision kind id =
      if kind = scopeKind ∧ id = scopeId then some revision else db.scopeRevision kind id := by
  cases scopeKind with
  | room =>
    cases kind with
    | room => simp [MemoryDb.withRevision, MemoryDb.scopeRevision, Table.get_put]
    | task => simp [MemoryDb.withRevision, MemoryDb.scopeRevision]
  | task =>
    obtain ⟨task, htask, -⟩ := Option.map_eq_some_iff.mp h
    simp only [MemoryDb.withRevision, htask]
    cases kind with
    | room => simp [MemoryDb.scopeRevision]
    | task =>
      simp only [MemoryDb.scopeRevision, Table.get_put, true_and]
      split <;> rfl

theorem withRevision_keeps :
    (db.withRevision scopeKind scopeId revision).entries = db.entries ∧
      (db.withRevision scopeKind scopeId revision).events = db.events := by
  unfold MemoryDb.withRevision
  split <;> exact ⟨rfl, rfl⟩

theorem advanceScope_ok {step : Nat} (h : advanceScope scopeKind scopeId step db = (.ok n, db')) :
    ∃ before, db.scopeRevision scopeKind scopeId = some before ∧ n = before + step ∧
      db' = db.withRevision scopeKind scopeId n := by
  unfold advanceScope at h
  rw [get_bind] at h
  obtain ⟨before, hbefore, hset⟩ := of_demand h
  cases hset
  exact ⟨before, hbefore, rfl, rfl⟩

variable {row : MemoryEntryRecord} {u : Unit}

theorem writeRow_ok (h : writeRow row db = (.ok u, db')) :
    db' = db.written row := by
  unfold writeRow at h
  rw [get_bind] at h
  obtain ⟨-, hset⟩ := of_require h
  cases hset
  rfl

theorem insertRow_ok {stores : Bool} (h : insertRow stores row db = (.ok u, db')) :
    insertable db row = true ∧ db' = db.written row := by
  unfold insertRow at h
  rw [get_bind] at h
  obtain ⟨hchecks, hwrite⟩ := of_require h
  rw [Bool.and_eq_true] at hchecks
  exact ⟨hchecks.2, writeRow_ok hwrite⟩

variable {memoryId : MemoryId}

/-- An update closes one active row under a higher revision, or changes nothing. -/
theorem closeRow_ok {found : MemoryEntryRecord → Bool} {state : MemoryEntryState} {updatedAt : Time}
    {changes : Nat} (h : closeRow memoryId found state revision updatedAt db = (.ok changes, db')) :
    (changes = 0 ∧ db' = db ∧ ∀ row, db.entries.get memoryId = some row → found row = true →
      row.state ≠ .active) ∨ ∃ row, db.entries.get memoryId = some row ∧ found row = true ∧
      row.state = .active ∧ row.revision < revision ∧ state ≠ .active ∧
      db' = db.written { row with state, revision, updatedAt } := by
  unfold closeRow at h
  rw [get_bind] at h
  generalize hrow : Option.filter _ (db.entries.get memoryId) = selected at h
  cases selected with
  | none =>
    cases h
    refine .inl ⟨rfl, rfl, fun row hget hfound hactive => ?_⟩
    simp [hget, hfound, hactive] at hrow
  | some row =>
    obtain ⟨hget, hselected⟩ := Option.filter_eq_some_iff.mp hrow
    obtain ⟨hclosable, hwrite⟩ := of_require h
    obtain ⟨u, s, hwritten, hpure⟩ := ok_of_bind hwrite
    cases hpure
    simp only [Bool.and_eq_true, decide_eq_true_eq] at hselected
    simp only [closable, Bool.and_eq_true, decide_eq_true_eq] at hclosable
    exact .inr ⟨row, hget, hselected.1, hselected.2, hclosable.1.1.2, hclosable.1.1.1.2,
      writeRow_ok hwritten⟩

theorem require_ok {c : Prop} [Decidable c] {e : Err} (h : require c e db = (.ok u, db')) :
    c ∧ db' = db := by
  unfold require at h
  split at h
  · next hc =>
      cases h
      exact ⟨hc, rfl⟩
  · cases h

theorem readBack_ok (h : readBack memoryId db = (.ok row, db')) :
    db.entries.get memoryId = some row ∧ db' = db := by
  unfold readBack at h
  rw [get_bind] at h
  cases hfound : db.entries.get memoryId with
  | none =>
    rw [hfound] at h
    cases h
  | some found =>
    rw [hfound] at h
    cases h
    exact ⟨rfl, rfl⟩

end Writes

/-! ## What a call does -/

/-- Rows are kept under their ids. -/
def Keyed (db : MemoryDb) : Prop :=
  ∀ memoryId row, db.entries.get memoryId = some row → row.memoryId = memoryId

/-- Rows were written, each with an event: an older row keeps its evidence, and a closed one
everything. -/
structure Grown (db db' : MemoryDb) (news : List LifecycleEvent) : Prop where
  scopes : ∀ kind id, db'.scopeRevision kind id = db.scopeRevision kind id
  events : db'.events = db.events ++ news
  owned : ∀ event ∈ news, ∃ row, db'.entries.get event.memoryId = some row ∧
    row.scopeKind = event.scopeKind ∧ row.scopeId = event.scopeId
  rows : ∀ memoryId row, db.entries.get memoryId = some row →
    ∃ row', db'.entries.get memoryId = some row' ∧ row'.evidence = row.evidence ∧
      (row.state ≠ .active → row' = row)
  keyed : Keyed db → Keyed db'

section Grows

variable {db db₁ db' : MemoryDb} {news news' : List LifecycleEvent} {row : MemoryEntryRecord}

theorem scope_of_evidence {row' : MemoryEntryRecord} (h : row'.evidence = row.evidence) :
    row'.scopeKind = row.scopeKind ∧ row'.scopeId = row.scopeId := by
  have hkind : row'.evidence.scopeKind = row.evidence.scopeKind := by rw [h]
  have hid : row'.evidence.scopeId = row.evidence.scopeId := by rw [h]
  exact ⟨hkind, hid⟩

theorem Grown.trans (h : Grown db db₁ news) (h' : Grown db₁ db' news') :
    Grown db db' (news ++ news') where
  scopes kind id := (h'.scopes kind id).trans (h.scopes kind id)
  events := by rw [h'.events, h.events, List.append_assoc]
  owned := by
    intro event hevent
    rcases List.mem_append.mp hevent with hfirst | hsecond
    · obtain ⟨row, hrow, hkind, hid⟩ := h.owned event hfirst
      obtain ⟨row', hrow', hevidence, -⟩ := h'.rows _ row hrow
      obtain ⟨hkind', hid'⟩ := scope_of_evidence hevidence
      exact ⟨row', hrow', hkind'.trans hkind, hid'.trans hid⟩
    · exact h'.owned event hsecond
  rows := by
    intro memoryId row hrow
    obtain ⟨row₁, hrow₁, hevidence₁, hclosed₁⟩ := h.rows memoryId row hrow
    obtain ⟨row', hrow', hevidence, hclosed⟩ := h'.rows memoryId row₁ hrow₁
    refine ⟨row', hrow', hevidence.trans hevidence₁, fun hstate => ?_⟩
    obtain rfl := hclosed₁ hstate
    exact hclosed hstate
  keyed hkeyed := h'.keyed (h.keyed hkeyed)

/-- A row written is a new one, or an active one with another state. -/
theorem grown_written (hrow : ∀ old, db.entries.get row.memoryId = some old →
      old.state = .active ∧ row.evidence = old.evidence) :
    Grown db (db.written row) [row.event] := by
  have hget : ∀ id, (db.written row).entries.get id =
      if id = row.memoryId then some row else db.entries.get id := fun id => Table.get_put _ _ _ _
  refine ⟨fun kind id => by cases kind <;> rfl, rfl, ?_, ?_, ?_⟩
  · intro event hevent
    obtain rfl := List.mem_singleton.mp hevent
    exact ⟨row, (hget _).trans (if_pos rfl), rfl, rfl⟩
  · intro memoryId old hold
    by_cases hid : memoryId = row.memoryId
    · subst hid
      obtain ⟨hactive, hevidence⟩ := hrow old hold
      exact ⟨row, (hget _).trans (if_pos rfl), hevidence, fun hclosed => absurd hactive hclosed⟩
    · exact ⟨old, by rw [hget, if_neg hid, hold], rfl, fun _ => rfl⟩
  · intro hkeyed memoryId other hother
    rw [hget] at hother
    split at hother
    · rename_i hid
      cases hother
      exact hid.symm
    · exact hkeyed memoryId other hother

end Grows

/-- **A write of a scope** took `step` revisions, each with one event. -/
structure Wrote (db db' : MemoryDb) (scopeKind : MemoryScopeKind) (scopeId step : Nat)
    (news : List LifecycleEvent) : Prop where
  reached : ∀ kind id, db'.reached kind id =
    db.reached kind id + if kind = scopeKind ∧ id = scopeId then step else 0
  events : db'.events = db.events ++ news
  numbers : (news.map (·.revision)).Perm (List.range' (db.reached scopeKind scopeId + 1) step)
  here : ∀ event ∈ news, event.scopeKind = scopeKind ∧ event.scopeId = scopeId
  owned : ∀ event ∈ news, ∃ row, db'.entries.get event.memoryId = some row ∧
    row.scopeKind = event.scopeKind ∧ row.scopeId = event.scopeId
  rows : ∀ memoryId row, db.entries.get memoryId = some row →
    ∃ row', db'.entries.get memoryId = some row' ∧ row'.evidence = row.evidence ∧
      (row.state ≠ .active → row' = row)
  keyed : Keyed db → Keyed db'

section Calls

variable {db db' : MemoryDb}

/-- What is written after a scope was advanced is a write of the scope. -/
theorem wrote_of_grown {scopeKind : MemoryScopeKind} {scopeId before step : Nat}
    {news : List LifecycleEvent} (hscope : db.scopeRevision scopeKind scopeId = some before)
    (hgrown : Grown (db.withRevision scopeKind scopeId (before + step)) db' news)
    (hnumbers : (news.map (·.revision)).Perm (List.range' (before + 1) step))
    (hhere : ∀ event ∈ news, event.scopeKind = scopeKind ∧ event.scopeId = scopeId) :
    Wrote db db' scopeKind scopeId step news := by
  obtain ⟨hentries, hevents⟩ := @withRevision_keeps db scopeKind scopeId (before + step)
  have hbefore : db.reached scopeKind scopeId = before := by
    unfold MemoryDb.reached
    rw [hscope, Option.getD_some]
  refine ⟨?_, ?_, by rw [hbefore]; exact hnumbers, hhere, hgrown.owned, ?_, ?_⟩
  · intro kind id
    have hafter : db'.reached kind id = (if kind = scopeKind ∧ id = scopeId then
        some (before + step) else db.scopeRevision kind id).getD 0 := by
      unfold MemoryDb.reached
      rw [hgrown.scopes, scopeRevision_withRevision hscope]
    rw [hafter]
    split
    · rename_i hsame
      rw [hsame.1, hsame.2, hbefore, Option.getD_some]
    · rfl
  · rw [hgrown.events, hevents]
  · rw [hentries.symm]
    exact hgrown.rows
  · intro hkeyed
    refine hgrown.keyed fun memoryId row hrow => hkeyed memoryId row ?_
    rw [← hentries]
    exact hrow

theorem fresh_of_insertable {row : MemoryEntryRecord} (h : insertable db row = true) :
    db.entries.get row.memoryId = none := by
  simp only [insertable, Bool.and_eq_true] at h
  exact Option.isNone_iff_eq_none.mp h.1.1.1.1.1.1

variable {record : MemoryEntryRecord}

/-- **`create` writes its scope once**, and what it supersedes under the revision before. -/
theorem create_ok (hkeyed : Keyed db) {stores : Bool} {input : NewMemoryEntry}
    (h : create stores input db = (.ok record, db')) :
    ∃ step news, Wrote db db' input.scopeKind input.scopeId step news := by
  obtain ⟨n, db₁, hadvance, hinsert⟩ := ok_of_bind (ok_of_immediate h)
  obtain ⟨before, hbefore, rfl, rfl⟩ := advanceScope_ok hadvance
  obtain ⟨_, db₂, hinserted, hrest⟩ := ok_of_bind hinsert
  obtain ⟨hinsertable, rfl⟩ := insertRow_ok hinserted
  obtain ⟨_, db₃, hclose, hread⟩ := ok_of_bind hrest
  obtain ⟨-, rfl⟩ := readBack_ok hread
  have hfresh := fresh_of_insertable hinsertable
  -- the new row has an id that was free
  have hnew : ∀ revision, Grown (db.withRevision input.scopeKind input.scopeId (before + revision))
      ((db.withRevision input.scopeKind input.scopeId (before + revision)).written
        (input.row (before + revision))) [(input.row (before + revision)).event] := by
    intro revision
    refine grown_written fun old hold => ?_
    rw [withRevision_keeps.1] at hold hfresh
    rw [show (input.row (before + revision)).memoryId = input.memoryId from rfl] at hold
    rw [show (input.row _).memoryId = input.memoryId from rfl, hold] at hfresh
    cases hfresh
  cases htarget : input.supersedesMemoryId with
  | none =>
    rw [htarget] at hclose
    cases hclose
    refine ⟨1, _, wrote_of_grown hbefore (hnew 1) (.refl _) fun event hevent => ?_⟩
    obtain rfl := List.mem_singleton.mp hevent
    exact ⟨rfl, rfl⟩
  | some target =>
    rw [htarget] at hclose
    obtain ⟨changes, db₄, hclosed, hchanged⟩ := ok_of_bind hclose
    obtain ⟨hone, rfl⟩ := require_ok hchanged
    -- one row was closed: the superseded one, active until now
    obtain ⟨hzero, -, -⟩ | ⟨row, hrow, hscope, hactive, -, -, rfl⟩ := closeRow_ok hclosed
    · omega
    · simp only [Bool.and_eq_true, decide_eq_true_eq] at hscope
      have hid : row.memoryId = target := (hnew 2).keyed
        (fun id row hget => hkeyed id row (by rw [← withRevision_keeps.1]; exact hget)) _ _ hrow
      refine ⟨2, _, wrote_of_grown hbefore ((hnew 2).trans (grown_written ?_)) ?_ ?_⟩
      · intro old hold
        rw [show ({ row with
          state := MemoryEntryState.superseded, revision := before + 2 - 1,
          updatedAt := input.createdAt } : MemoryEntryRecord).memoryId = target from hid] at hold
        obtain rfl := Option.mem_unique hrow hold
        exact ⟨hactive, rfl⟩
      · exact List.Perm.swap _ _ _
      · intro event hevent
        rcases List.mem_pair.mp hevent with rfl | rfl
        · exact ⟨rfl, rfl⟩
        · exact hscope

/-- **`retract` writes the scope of its entry once**, or nothing. -/
theorem retract_ok (hkeyed : Keyed db) {memoryId : MemoryId} {now : Time}
    (h : retract memoryId now db = (.ok record, db')) :
    db' = db ∨ ∃ kind id step news, Wrote db db' kind id step news := by
  obtain ⟨current, db₁, hread, hrest⟩ := ok_of_bind (ok_of_immediate h)
  obtain ⟨hcurrent, rfl⟩ := readBack_ok hread
  cases hstate : current.state with
  | retracted =>
    rw [hstate] at hrest
    cases hrest
    exact .inl rfl
  | superseded =>
    rw [hstate] at hrest
    cases hrest
  | active =>
    rw [hstate] at hrest
    obtain ⟨n, db₂, hadvance, hclose⟩ := ok_of_bind hrest
    obtain ⟨before, hbefore, rfl, rfl⟩ := advanceScope_ok hadvance
    obtain ⟨changes, db₃, hclosed, hagain⟩ := ok_of_bind hclose
    obtain ⟨-, rfl⟩ := readBack_ok hagain
    have hid : current.memoryId = memoryId := hkeyed _ _ hcurrent
    obtain ⟨-, rfl, hnone⟩ | ⟨row, hrow, -, hactive, -, -, rfl⟩ := closeRow_ok hclosed
    · exact absurd hstate (hnone current (by rw [withRevision_keeps.1, hcurrent]) rfl)
    · rw [withRevision_keeps.1, hcurrent] at hrow
      obtain rfl := Option.some.inj hrow
      refine .inr ⟨_, _, 1, _, wrote_of_grown hbefore (grown_written ?_) (.refl _) ?_⟩
      · intro old hold
        rw [withRevision_keeps.1] at hold
        rw [show ({ current with
          state := MemoryEntryState.retracted, revision := before + 1,
          updatedAt := now } : MemoryEntryRecord).memoryId = memoryId from hid,
          hcurrent] at hold
        obtain rfl := Option.some.inj hold
        exact ⟨hactive, rfl⟩
      · intro event hevent
        obtain rfl := List.mem_singleton.mp hevent
        exact ⟨rfl, rfl⟩

end Calls

/-! ## Runs -/

/-- The calls, and the Rooms and Tasks that appear. -/
inductive MemoryCall where
  | addRoom (roomId : RoomId)
  | addTask (taskId : TaskId) (roomId : RoomId)
  | create (stores : Bool) (input : NewMemoryEntry)
  | retract (memoryId : MemoryId) (now : Time)

/-- The tables after a call, whether it returned or threw. -/
def MemoryDb.after (db : MemoryDb) : MemoryCall → MemoryDb
  | .addRoom roomId =>
    if (db.rooms.get roomId).isSome then db else { db with rooms := db.rooms.put roomId 0 }
  | .addTask taskId roomId =>
    if (db.tasks.get taskId).isSome then db
    else { db with tasks := db.tasks.put taskId ⟨roomId, 0⟩ }
  | .create stores input => (Memory.create stores input db).2
  | .retract memoryId now => (Memory.retract memoryId now db).2

/-- **The runs of the repository.** -/
def memory : System MemoryDb MemoryCall where
  init db := db = .blank
  step call db db' := db' = db.after call

/-- **What holds in every run**: rows are kept under their ids, events are those of their rows, and
the revisions of a scope have one event each. -/
structure EntryInv (db : MemoryDb) : Prop where
  keyed : Keyed db
  numbered : ∀ kind id,
    ((db.eventsOf kind id).map (·.revision)).Perm (List.range' 1 (db.reached kind id))
  owned : ∀ event ∈ db.events, ∃ row, db.entries.get event.memoryId = some row ∧
    row.scopeKind = event.scopeKind ∧ row.scopeId = event.scopeId

/-- **What a run adds**: later revisions, rows with new ids, and the closing of active rows. -/
structure Later (db db' : MemoryDb) : Prop where
  reached : ∀ kind id, db.reached kind id ≤ db'.reached kind id
  events : ∃ news, db'.events = db.events ++ news ∧
    ∀ event ∈ news, db.reached event.scopeKind event.scopeId < event.revision
  rows : ∀ memoryId row, db.entries.get memoryId = some row →
    ∃ row', db'.entries.get memoryId = some row' ∧ row'.evidence = row.evidence ∧
      (row.state ≠ .active → row' = row)

section Steps

variable {db db' : MemoryDb}

/-- A step writes one scope, or touches neither rows nor events nor a revision. -/
theorem step_cases (hkeyed : Keyed db) {call : MemoryCall} (h : memory.step call db db') :
    (∃ kind id step news, Wrote db db' kind id step news) ∨
      (db'.entries = db.entries ∧ db'.events = db.events ∧
        ∀ kind id, db'.reached kind id = db.reached kind id) := by
  obtain rfl : db' = db.after call := h
  -- a call that throws leaves the database as it was
  have hsame : ∀ {α : Type} {x : MemoryTx α} {e : Err} {s : MemoryDb},
      immediate x db = (.error e, s) → s.entries = db.entries ∧ s.events = db.events ∧
        ∀ kind id, s.reached kind id = db.reached kind id := by
    intro α x e s herror
    obtain rfl := state_of_immediate_error herror
    exact ⟨rfl, rfl, fun _ _ => rfl⟩
  cases call with
  | addRoom roomId =>
    refine .inr ?_
    simp only [MemoryDb.after]
    split
    · exact ⟨rfl, rfl, fun _ _ => rfl⟩
    · -- a new Room has reached nothing
      rename_i hnone
      refine ⟨rfl, rfl, fun kind id => ?_⟩
      cases kind with
      | room =>
        simp only [MemoryDb.reached, MemoryDb.scopeRevision, Table.get_put]
        split
        · rename_i hid
          rw [hid, Option.not_isSome_iff_eq_none.mp hnone]
          rfl
        · rfl
      | task => rfl
  | addTask taskId roomId =>
    refine .inr ?_
    simp only [MemoryDb.after]
    split
    · exact ⟨rfl, rfl, fun _ _ => rfl⟩
    · rename_i hnone
      refine ⟨rfl, rfl, fun kind id => ?_⟩
      cases kind with
      | room => rfl
      | task =>
        simp only [MemoryDb.reached, MemoryDb.scopeRevision, Table.get_put]
        split
        · rename_i hid
          rw [hid, Option.not_isSome_iff_eq_none.mp hnone]
          rfl
        · rfl
  | create stores input =>
    simp only [MemoryDb.after]
    rcases hrun : Memory.create stores input db with ⟨e | record, s⟩
    · exact .inr (hsame hrun)
    · obtain ⟨step, news, hwrote⟩ := create_ok hkeyed hrun
      exact .inl ⟨_, _, step, news, hwrote⟩
  | retract memoryId now =>
    simp only [MemoryDb.after]
    rcases hrun : Memory.retract memoryId now db with ⟨e | record, s⟩
    · exact .inr (hsame hrun)
    · obtain rfl | hwrote := retract_ok hkeyed hrun
      · exact .inr ⟨rfl, rfl, fun _ _ => rfl⟩
      · exact .inl hwrote

variable {kind : MemoryScopeKind} {id step : Nat} {news : List LifecycleEvent}

theorem Wrote.later (h : Wrote db db' kind id step news) : Later db db' where
  reached kind' id' := by
    rw [h.reached]
    exact Nat.le_add_right _ _
  events := by
    refine ⟨news, h.events, fun event hevent => ?_⟩
    obtain ⟨hkind, hid⟩ := h.here event hevent
    have hmem := h.numbers.mem_iff.mp (List.mem_map_of_mem hevent)
    rw [List.mem_range'_1] at hmem
    rw [hkind, hid]
    omega
  rows := h.rows

theorem Later.of_same (hentries : db'.entries = db.entries) (hevents : db'.events = db.events)
    (hreached : ∀ kind id, db'.reached kind id = db.reached kind id) : Later db db' where
  reached kind id := (hreached kind id).ge
  events := ⟨[], by rw [hevents, List.append_nil], nofun⟩
  rows memoryId row hrow := ⟨row, by rw [hentries, hrow], rfl, fun _ => rfl⟩

theorem Later.trans {db₁ : MemoryDb} (h : Later db db₁) (h' : Later db₁ db') : Later db db' where
  reached kind id := (h.reached kind id).trans (h'.reached kind id)
  events := by
    obtain ⟨news, hnews, hnew⟩ := h.events
    obtain ⟨news', hnews', hnew'⟩ := h'.events
    refine ⟨news ++ news', by rw [hnews', hnews, List.append_assoc], fun event hevent => ?_⟩
    rcases List.mem_append.mp hevent with hfirst | hsecond
    · exact hnew event hfirst
    · exact (h.reached _ _).trans_lt (hnew' event hsecond)
  rows memoryId row hrow := by
    obtain ⟨row₁, hrow₁, hevidence₁, hclosed₁⟩ := h.rows memoryId row hrow
    obtain ⟨row', hrow', hevidence, hclosed⟩ := h'.rows memoryId row₁ hrow₁
    refine ⟨row', hrow', hevidence.trans hevidence₁, fun hstate => ?_⟩
    obtain rfl := hclosed₁ hstate
    exact hclosed hstate

theorem Wrote.inv (h : Wrote db db' kind id step news) (hinv : EntryInv db) : EntryInv db' where
  keyed := h.keyed hinv.keyed
  numbered := by
    intro kind' id'
    have hevents : db'.eventsOf kind' id' = db.eventsOf kind' id' ++
        news.filter fun event => event.scopeKind = kind' && event.scopeId = id' := by
      unfold MemoryDb.eventsOf
      rw [h.events, List.filter_append]
    rw [hevents, h.reached, List.map_append]
    by_cases hscope : kind' = kind ∧ id' = id
    · obtain ⟨rfl, rfl⟩ := hscope
      rw [if_pos ⟨rfl, rfl⟩, List.filter_eq_self.mpr (by simpa using h.here),
        ← List.range'_append_1, Nat.add_comm 1]
      exact (hinv.numbered kind' id').append h.numbers
    · rw [if_neg hscope, List.filter_eq_nil_iff.mpr ?_]
      · rw [List.map_nil, List.append_nil]
        exact hinv.numbered kind' id'
      · intro event hevent hthere
        simp only [Bool.and_eq_true, decide_eq_true_eq] at hthere
        obtain ⟨hkind, hid⟩ := h.here event hevent
        exact hscope ⟨hthere.1.symm.trans hkind, hthere.2.symm.trans hid⟩
  owned := by
    intro event hevent
    rw [h.events] at hevent
    rcases List.mem_append.mp hevent with hold | hnew
    · obtain ⟨row, hrow, hkind, hid⟩ := hinv.owned event hold
      obtain ⟨row', hrow', hevidence, -⟩ := h.rows _ row hrow
      obtain ⟨hkind', hid'⟩ := scope_of_evidence hevidence
      exact ⟨row', hrow', hkind'.trans hkind, hid'.trans hid⟩
    · exact h.owned event hnew

theorem EntryInv.of_same (hinv : EntryInv db) (hentries : db'.entries = db.entries)
    (hevents : db'.events = db.events)
    (hreached : ∀ kind id, db'.reached kind id = db.reached kind id) : EntryInv db' where
  keyed memoryId row hrow := hinv.keyed memoryId row (by rw [← hentries, hrow])
  numbered kind id := by
    have hof : db'.eventsOf kind id = db.eventsOf kind id := by
      unfold MemoryDb.eventsOf
      rw [hevents]
    rw [hof, hreached]
    exact hinv.numbered kind id
  owned := by
    rw [hevents, hentries]
    exact hinv.owned

theorem inv_reachable (h : memory.Reachable db) : EntryInv db := by
  refine System.invariant EntryInv ?_ ?_ h
  · rintro db rfl
    refine ⟨nofun, fun kind id => ?_, nofun⟩
    cases kind <;> exact .refl _
  · intro call db db' hstep hinv
    obtain ⟨kind, id, step, news, hwrote⟩ | ⟨hentries, hevents, hreached⟩ :=
      step_cases hinv.keyed hstep
    · exact hwrote.inv hinv
    · exact hinv.of_same hentries hevents hreached

theorem later_steps (h : memory.Reachable db) (hsteps : memory.Steps db db') : Later db db' := by
  refine System.along_run (R := Later) (fun db => .of_same rfl rfl fun _ _ => rfl)
    (fun _ _ _ => Later.trans) ?_ h hsteps
  intro call db db' hreachable hstep
  obtain ⟨kind, id, step, news, hwrote⟩ | ⟨hentries, hevents, hreached⟩ :=
    step_cases (inv_reachable hreachable).keyed hstep
  · exact hwrote.later
  · exact .of_same hentries hevents hreached

end Steps

/-! ## The view at a revision -/

/-- A record without the time of its last update, which is the row's of today. -/
def MemoryEntryRecord.undated (record : MemoryEntryRecord) : MemoryEntryRecord :=
  { record with updatedAt := record.createdAt }

def MemoryContextScope.undated (scope : MemoryContextScope) : MemoryContextScope :=
  { scope with entries := scope.entries.map (·.undated) }

/-- The choice and the order of a context do not look at times. -/
theorem contextOf_undated (revision activeLimit tombstoneLimit : Nat)
    (entries : List MemoryEntryRecord) :
    (contextOf revision activeLimit tombstoneLimit entries).undated =
      contextOf revision activeLimit tombstoneLimit (entries.map (·.undated)) := by
  have hsort : ∀ (r : MemoryEntryRecord → MemoryEntryRecord → Bool) (l : List MemoryEntryRecord),
      (∀ a b, r a b = r a.undated b.undated) →
      (l.mergeSort r).map (·.undated) = (l.map (·.undated)).mergeSort r :=
    fun r l h => List.map_mergeSort fun a _ b _ => h a b
  have hactive : (entries.filter (·.state = .active)).map (·.undated) =
      (entries.map (·.undated)).filter (·.state = .active) := by
    rw [List.filter_map]
    rfl
  have hinactive : (entries.filter (·.state ≠ .active)).map (·.undated) =
      (entries.map (·.undated)).filter (·.state ≠ .active) := by
    rw [List.filter_map]
    rfl
  unfold contextOf MemoryContextScope.undated
  simp only
  rw [hsort _ _ fun a b => rfl, List.map_append, List.map_take, List.map_take,
    hsort _ _ fun a b => rfl, hsort _ _ fun a b => rfl, hactive, hinactive]
  congr 2
  rw [List.length_mergeSort, List.length_mergeSort, ← hactive, List.length_map]

section View

variable {db db' : MemoryDb} {kind : MemoryScopeKind} {id revision : Nat}

theorem filter_append_left {α : Type} {p : α → Bool} {l news : List α}
    (h : ∀ x ∈ news, ¬p x = true) : (l ++ news).filter p = l.filter p := by
  rw [List.filter_append, List.filter_eq_nil_iff.mpr h, List.append_nil]

theorem Later.eventsUpTo (h : Later db db') (hreached : revision ≤ db.reached kind id) :
    db'.eventsUpTo kind id revision = db.eventsUpTo kind id revision := by
  obtain ⟨news, hnews, hnew⟩ := h.events
  unfold MemoryDb.eventsUpTo
  rw [hnews, filter_append_left]
  intro event hevent hthere
  simp only [Bool.and_eq_true, decide_eq_true_eq] at hthere
  obtain ⟨⟨rfl, rfl⟩, hle⟩ := hthere
  have := hnew event hevent
  omega

/-- What is latest is the revision of an entry of the scope. -/
theorem latest_within {latest : MemoryId × Nat}
    (h : latest ∈ MemoryDb.latestEvents (db.eventsUpTo kind id revision)) :
    latest.2 ≤ revision ∧ ∃ event ∈ db.events, event.memoryId = latest.1 ∧
      event.scopeKind = kind ∧ event.scopeId = id := by
  obtain ⟨memoryId, hmem, rfl⟩ := List.mem_map.mp h
  obtain ⟨event, hevent, rfl⟩ := List.mem_map.mp (List.mem_dedup.mp hmem)
  obtain ⟨hstored, hscope⟩ := List.mem_filter.mp hevent
  simp only [Bool.and_eq_true, decide_eq_true_eq] at hscope
  refine ⟨?_, event, hstored, rfl, hscope.1.1, hscope.1.2⟩
  have hbound : ∀ l : List Nat, (∀ n ∈ l, n ≤ revision) → l.foldr max 0 ≤ revision := by
    intro l hl
    induction l with
    | nil => exact Nat.zero_le _
    | cons n rest ih =>
      rw [List.forall_mem_cons] at hl
      exact Nat.max_le.mpr ⟨hl.1, ih hl.2⟩
  refine hbound _ fun n hn => ?_
  obtain ⟨other, hother, rfl⟩ := List.mem_map.mp hn
  have hthere := (List.mem_filter.mp (List.mem_filter.mp hother).1).2
  simp only [Bool.and_eq_true, decide_eq_true_eq] at hthere
  exact hthere.2

/-- **The rows of a view stay what they are**, but for the time of their last update. -/
theorem Later.rowsAt (hinv : EntryInv db) (hinv' : EntryInv db') (h : Later db db')
    (hreached : revision ≤ db.reached kind id) :
    (db'.rowsAt kind id revision).map (·.undated) =
      (db.rowsAt kind id revision).map (·.undated) := by
  unfold MemoryDb.rowsAt
  rw [h.eventsUpTo hreached, List.map_flatMap, List.map_flatMap]
  refine List.flatMap_congr fun latest hlatest => ?_
  obtain ⟨hle, event, hevent, hmemory, hkind, hid⟩ := latest_within hlatest
  obtain ⟨row, hrow, hrowKind, hrowId⟩ := hinv.owned event hevent
  rw [hmemory] at hrow
  obtain ⟨row', hrow', hevidence, -⟩ := h.rows _ row hrow
  obtain ⟨hkind', hid'⟩ := scope_of_evidence hevidence
  obtain ⟨news, hnews, hnew⟩ := h.events
  -- a later event of the entry is one of its scope, and so of a later revision
  have hsame : (db'.events.filter fun event =>
      event.memoryId = latest.1 && event.revision = latest.2) = db.events.filter fun event =>
      event.memoryId = latest.1 && event.revision = latest.2 := by
    rw [hnews, filter_append_left]
    intro other hother hmatch
    simp only [Bool.and_eq_true, decide_eq_true_eq] at hmatch
    have hstored : other ∈ db'.events := hnews ▸ List.mem_append_right _ hother
    obtain ⟨row₁, hrow₁, hkind₁, hid₁⟩ := hinv'.owned other hstored
    rw [hmatch.1] at hrow₁
    obtain rfl := Option.mem_unique hrow' hrow₁
    have hlater := hnew other hother
    rw [← hkind₁, ← hid₁, hkind', hid', hrowKind, hrowId, hkind, hid] at hlater
    omega
  rw [hsame, hrow, hrow', List.map_filterMap, List.map_filterMap]
  refine List.filterMap_congr fun other _ => ?_
  have hundated : ({ row' with
      revision := other.revision, state := other.state } : MemoryEntryRecord).undated =
      ({ row with revision := other.revision, state := other.state } :
        MemoryEntryRecord).undated := by
    have hleft : ({ row' with
        revision := other.revision, state := other.state } : MemoryEntryRecord).undated =
        { row'.evidence with revision := other.revision, state := other.state } := rfl
    rw [hleft, hevidence]
    rfl
  simp only [Option.map_some, hundated]

/-- What a call for a view returns, without the times of last updates. -/
def undatedView (view : Except Err (Option MemoryContextScope)) :
    Except Err (Option MemoryContextScope) :=
  view.map (Option.map (·.undated))

theorem Later.view (hinv : EntryInv db) (hinv' : EntryInv db') (h : Later db db')
    (hreached : revision ≤ db.reached kind id) (activeLimit tombstoneLimit : Nat) :
    undatedView (contextScopeAtRevision db' kind id revision activeLimit tombstoneLimit) =
      undatedView (contextScopeAtRevision db kind id revision activeLimit tombstoneLimit) := by
  unfold contextScopeAtRevision
  split
  · rfl
  · split
    · rfl
    · simp only [undatedView, pure, Except.pure, Except.map, Option.map_some]
      rw [contextOf_undated, contextOf_undated, h.rowsAt hinv hinv' hreached]

end View

/-! ## The law -/

/-- **The law of memory entries.** -/
structure EntryLaw : Prop where
  /-- The revisions of a scope are the numbers from 1 to the one it stands at, with one event
  each. -/
  numbered : ∀ db, memory.Reachable db → ∀ kind id,
    ((db.eventsOf kind id).map (·.revision)).Perm (List.range' 1 (db.reached kind id))
  /-- An entry that was superseded or retracted stays what it is. -/
  closed : ∀ db db', memory.Reachable db → memory.Steps db db' → ∀ memoryId row,
    db.entries.get memoryId = some row → row.state ≠ .active → db'.entries.get memoryId = some row
  /-- A call that fails changes nothing. -/
  failed : ∀ db db' e,
    (∀ stores input, create stores input db = (.error e, db') → db' = db) ∧
      ∀ memoryId now, retract memoryId now db = (.error e, db') → db' = db
  /-- The view at a revision that a scope had reached is what it was, then and at any later time. -/
  past : ∀ db db', memory.Reachable db → memory.Steps db db' → ∀ kind id revision,
    revision ≤ db.reached kind id → ∀ activeLimit tombstoneLimit,
    undatedView (contextScopeAtRevision db' kind id revision activeLimit tombstoneLimit) =
      undatedView (contextScopeAtRevision db kind id revision activeLimit tombstoneLimit)
  /-- So it is what the scope was when it stood at the revision. -/
  stood : ∀ db db', memory.Reachable db → memory.Steps db db' → ∀ kind id revision,
    db.scopeRevision kind id = some revision → ∀ activeLimit tombstoneLimit,
    undatedView (contextScopeAtRevision db' kind id revision activeLimit tombstoneLimit) =
      undatedView (contextScope db kind id activeLimit tombstoneLimit)

/-- **The repository keeps its law.** -/
theorem memory_entry_law : EntryLaw := by
  have hpast : ∀ db db', memory.Reachable db → memory.Steps db db' → ∀ kind id revision,
      revision ≤ db.reached kind id → ∀ activeLimit tombstoneLimit,
      undatedView (contextScopeAtRevision db' kind id revision activeLimit tombstoneLimit) =
        undatedView (contextScopeAtRevision db kind id revision activeLimit tombstoneLimit) :=
    fun db db' h hsteps kind id revision hreached => (later_steps h hsteps).view (inv_reachable h)
      (inv_reachable (System.reachable_steps h hsteps)) hreached
  refine { numbered := fun db h => (inv_reachable h).numbered, closed := ?_, failed := ?_,
           past := hpast, stood := ?_ }
  · intro db db' h hsteps memoryId row hrow hclosed
    obtain ⟨row', hrow', -, hsame⟩ := (later_steps h hsteps).rows memoryId row hrow
    rw [hrow', hsame hclosed]
  · intro db db' e
    constructor
    · intro stores input herror
      exact state_of_immediate_error herror
    · intro memoryId now herror
      exact state_of_immediate_error herror
  · intro db db' h hsteps kind id revision hrevision activeLimit tombstoneLimit
    unfold contextScope
    rw [hrevision]
    refine hpast db db' h hsteps kind id revision ?_ activeLimit tombstoneLimit
    unfold MemoryDb.reached
    rw [hrevision]
    exact le_rfl

/-- A decision of Room 1. -/
def decisionOf (memoryId : MemoryId) (supersedesMemoryId : Option MemoryId) : NewMemoryEntry where
  memoryId
  scopeKind := .room
  scopeId := 1
  roomId := 1
  taskId := none
  type := .decision
  content := "d"
  supersedesMemoryId
  sourceMessageIds := [7]
  sourceArtifactIds := []
  sourceRunIds := []
  sourceDiscussionIds := []
  createdByMemberId := 1
  createdAt := 10

/-- Superseding takes two revisions, and the view at the first shows the entry still active. -/
example :
    let db := [.addRoom 1, .create true (decisionOf 1 none),
      .create true (decisionOf 2 (some 1))].foldl
      MemoryDb.after .blank
    db.scopeRevision .room 1 = some 3 ∧
      (db.rowsAt .room 1 1).map (fun row => (row.memoryId, row.state)) = [(1, .active)] ∧
      (db.rowsAt .room 1 3).map (fun row => (row.memoryId, row.state)) =
        [(2, .active), (1, .superseded)] := by
  decide

end AgentRoom.Memory
