import AgentRoom.Bridge.InboxFiles

/-!
# The files refine the inbox

A directory describes an inbox when every file name shows the record or the tombstone
the inbox has there. On a directory that describes an inbox each operation answers
what it answers on the inbox, and the writes it asks for come to what it does to the
inbox. A directory that loads describes some inbox.
-/

namespace AgentRoom.Bridge

/-- **What the names show** is the inbox. -/
structure Describes (read : FileName → Option FileContent) (inbox : Inbox) : Prop where
  records : ∀ runId, read (.record runId) = (inbox.records.get runId).map .record
  tombstones : ∀ runId, read (.tombstone runId) = (inbox.tombstones.get runId).map .tombstone
  /-- A record is stored under its own Run, whose identifier makes a file name. -/
  keyed : ∀ runId record, inbox.records.get runId = some record →
    record.runId = runId ∧ isContractRunID runId = true

/-- A name that is neither a record's nor a tombstone's. -/
def FileName.scratch : FileName → Prop
  | .temporary _ | .quarantined .. => True
  | .record _ | .tombstone _ => False

namespace Describes

variable {read read' : FileName → Option FileContent} {inbox : Inbox}

theorem congr (h : Describes read inbox)
    (hsame : ∀ name : FileName, ¬ name.scratch → read' name = read name) :
    Describes read' inbox where
  records runId := by rw [hsame _ (by simp [FileName.scratch]), h.records]
  tombstones runId := by rw [hsame _ (by simp [FileName.scratch]), h.tombstones]
  keyed := h.keyed

variable {runId : String}

/-- What shows one record, or none, in place of the one of a Run. -/
theorem of_record (h : Describes read inbox) {records : Table String Record} {o : Option Record}
    (hrecords : ∀ id, records.get id = if id = runId then o else inbox.records.get id)
    (hproper : ∀ record ∈ o, record.runId = runId ∧ isContractRunID runId = true)
    (hread : read' (.record runId) = o.map .record)
    (hsame : ∀ name : FileName, ¬ name.scratch → name ≠ .record runId → read' name = read name) :
    Describes read' { inbox with records } where
  records id := by
    dsimp only
    rw [hrecords]
    split
    · next heq => rw [heq, hread]
    · next hne => rw [hsame _ (by simp [FileName.scratch]) (by simpa using hne), h.records]
  tombstones id := by rw [hsame _ (by simp [FileName.scratch]) (by simp), h.tombstones]
  keyed id record hget := by
    dsimp only at hget
    rw [hrecords] at hget
    split at hget
    · next heq => exact heq ▸ hproper record hget
    · exact h.keyed id record hget

theorem put_record (h : Describes read inbox) {record : Record} (hid : record.runId = runId)
    (hvalid : isContractRunID runId = true) (hread : read' (.record runId) = some (.record record))
    (hsame : ∀ name : FileName, ¬ name.scratch → name ≠ .record runId → read' name = read name) :
    Describes read' { inbox with records := inbox.records.put runId record } :=
  h.of_record (o := some record) (fun _ => Table.get_put ..)
    (fun _ heq => Option.some.inj heq ▸ ⟨hid, hvalid⟩) hread hsame

theorem remove_record (h : Describes read inbox) (hread : read' (.record runId) = none)
    (hsame : ∀ name : FileName, ¬ name.scratch → name ≠ .record runId → read' name = read name) :
    Describes read' { inbox with records := inbox.records.remove runId } :=
  h.of_record (o := none) (fun _ => Table.get_remove ..) nofun hread hsame

/-- What shows one tombstone, or none, in place of the one of a Run. -/
theorem of_tombstone (h : Describes read inbox) {tombstones : Table String CancellationTombstone}
    {o : Option CancellationTombstone}
    (htombstones : ∀ id, tombstones.get id = if id = runId then o else inbox.tombstones.get id)
    (hread : read' (.tombstone runId) = o.map .tombstone)
    (hsame : ∀ name : FileName, ¬ name.scratch → name ≠ .tombstone runId →
      read' name = read name) :
    Describes read' { inbox with tombstones } where
  records id := by rw [hsame _ (by simp [FileName.scratch]) (by simp), h.records]
  tombstones id := by
    dsimp only
    rw [htombstones]
    split
    · next heq => rw [heq, hread]
    · next hne => rw [hsame _ (by simp [FileName.scratch]) (by simpa using hne), h.tombstones]
  keyed := h.keyed

end Describes

/-! ## Reading a directory that describes an inbox -/

namespace Files

variable {d : Files} {inbox : Inbox} {runId : String} {record : Record}

theorem load_some (h : Describes d.read inbox) (hget : inbox.records.get runId = some record) :
    d.load runId = .ok record := by
  unfold load
  rw [h.records, hget]
  rfl

theorem load_none (h : Describes d.read inbox) (hget : inbox.records.get runId = none) :
    d.load runId = .error .notExist := by
  unfold load
  rw [h.records, hget]
  rfl

theorem loadCancellationTombstone_some (h : Describes d.read inbox)
    {tombstone : CancellationTombstone} (hget : inbox.tombstones.get runId = some tombstone) :
    d.loadCancellationTombstone runId = .ok tombstone := by
  unfold loadCancellationTombstone
  rw [h.tombstones, hget]
  rfl

theorem loadCancellationTombstone_none (h : Describes d.read inbox)
    (hget : inbox.tombstones.get runId = none) :
    d.loadCancellationTombstone runId = .error .notExist := by
  unfold loadCancellationTombstone
  rw [h.tombstones, hget]
  rfl

/-! ## Listing -/

theorem mem_recordNames :
    runId ∈ d.recordNames ↔ (d.read (.record runId)).isSome := by
  unfold recordNames
  rw [List.mem_insertionSort, List.mem_filterMap, Disk.read, Option.isSome_map, ← Table.mem_keys]
  constructor
  · rintro ⟨name, hmem, hname⟩
    cases name with
    | record id => cases hname; exact hmem
    | _ => cases hname
  · intro hmem
    exact ⟨.record runId, hmem, rfl⟩

theorem nodup_recordNames (d : Files) : d.recordNames.Nodup := by
  unfold recordNames
  rw [(List.perm_insertionSort _ _).nodup_iff]
  refine d.names.nodup_keys.filterMap ?_
  intro a b runId ha hb
  cases a <;> cases b <;> simp_all

theorem listed_ok (h : Describes d.read inbox) (hget : inbox.records.get runId = some record) :
    d.listed runId = .ok record := by
  obtain ⟨hid, hvalid⟩ := h.keyed runId record hget
  unfold listed
  rw [load_some h hget]
  simp [bind, Except.bind, hid, hvalid, pure, Except.pure]

/-- Passes that all succeed list what they find. -/
theorem mapM_listed (h : Describes d.read inbox) {names : List String}
    (hthere : ∀ name ∈ names, ∃ record, inbox.records.get name = some record) :
    ∃ records, names.mapM d.listed = .ok records ∧ records.map (·.runId) = names ∧
      ∀ record ∈ records, inbox.records.get record.runId = some record := by
  induction names with
  | nil => exact ⟨[], rfl, rfl, by simp⟩
  | cons name names ih =>
    obtain ⟨record, hget⟩ := hthere name (by simp)
    obtain ⟨records, hrecords, hnames, hstored⟩ := ih fun n hn => hthere n (by simp [hn])
    have hid := (h.keyed name record hget).1
    refine ⟨record :: records, ?_, by rw [List.map_cons, hid, hnames], ?_⟩
    · rw [List.mapM_cons, listed_ok h hget, hrecords]
      rfl
    · intro r hr
      rcases List.mem_cons.mp hr with rfl | hr
      · rw [hid]
        exact hget
      · exact hstored r hr

/-- **`List` lists what `List` of the inbox lists**, in the same order. -/
theorem list_eq (h : Describes d.read inbox) :
    d.list = .ok (inbox.records.rows.insertionSort fun a b =>
      Inbox.fileName a.runId ≤ Inbox.fileName b.runId) := by
  obtain ⟨records, hrecords, hnames, hstored⟩ := @mapM_listed d inbox h d.recordNames
    fun name hname => by
      rw [mem_recordNames, h.records, Option.isSome_map] at hname
      exact Option.isSome_iff_exists.mp hname
  have hids : ∀ id record, inbox.records.get id = some record → record.runId = id :=
    fun id record hget => (h.keyed id record hget).1
  have hnodup : records.Nodup := by
    have := d.nodup_recordNames
    rw [← hnames] at this
    exact this.of_map _
  have hmem : ∀ record, record ∈ records ↔ record ∈ inbox.records.rows := by
    intro record
    rw [Table.mem_rows]
    constructor
    · exact fun hr => ⟨record.runId, hstored record hr⟩
    · rintro ⟨id, hget⟩
      have hid := hids id record hget
      have hname : id ∈ records.map (·.runId) := by
        rw [hnames, mem_recordNames, h.records, hget]
        rfl
      obtain ⟨r, hr, hrid⟩ := List.mem_map.mp hname
      have hsame := hstored r hr
      rw [hrid, hget] at hsame
      cases hsame
      exact hr
  have hperm : records.Perm (inbox.records.rows.insertionSort fun a b =>
      Inbox.fileName a.runId ≤ Inbox.fileName b.runId) := by
    refine List.Perm.trans ?_ (List.perm_insertionSort _ _).symm
    exact (List.perm_ext_iff_of_nodup hnodup ((Table.nodup_rows_map hids).of_map _)).mpr hmem
  unfold list
  rw [hrecords]
  congr 1
  -- both lists are in the order of the file names, which tells records apart
  refine hperm.eq_of_pairwise ?_ ?_ (List.pairwise_insertionSort _ _)
  · intro a b ha hb hab hba
    have hname : a.runId = b.runId := by
      have := String.le_antisymm hab hba
      exact (String.append_left_inj _).mp this
    have ha' := hstored a ha
    rw [hname, hstored b (hperm.mem_iff.mpr hb)] at ha'
    cases ha'
    rfl
  · have hsorted : d.recordNames.Pairwise fun a b => Inbox.fileName a ≤ Inbox.fileName b :=
      List.pairwise_insertionSort _ _
    rw [← hnames, List.pairwise_map] at hsorted
    exact hsorted

/-- What a listing returns came out of passes that succeeded. -/
theorem mapM_ok {names : List String} {records : List Record}
    (hok : names.mapM d.listed = .ok records) :
    ∀ name ∈ names, ∃ record, d.listed name = .ok record := by
  induction names generalizing records with
  | nil => simp
  | cons name names ih =>
    rw [List.mapM_cons] at hok
    rcases hfirst : d.listed name with e | record
    · rw [hfirst] at hok
      cases hok
    rw [hfirst] at hok
    rcases hrest : names.mapM d.listed with e | rest
    · rw [hrest] at hok
      cases hok
    intro n hn
    rcases List.mem_cons.mp hn with rfl | hn
    · exact ⟨record, hfirst⟩
    · exact ih hrest n hn

/-- A record file that is listed holds a record of its own Run. -/
theorem read_of_listed {name : String} (hok : d.listed name = .ok record) :
    d.read (.record name) = some (.record record) ∧ record.runId = name ∧
      isContractRunID name = true := by
  unfold listed load at hok
  rcases hread : d.read (.record name) with _ | content
  · rw [hread] at hok
    cases hok
  rw [hread] at hok
  cases content with
  | torn => cases hok
  | tombstone t => cases hok
  | record r =>
    simp only [bind, Except.bind] at hok
    split at hok
    · cases hok
    · next hvalid =>
      cases hok
      push Not at hvalid
      obtain ⟨hrun, hname⟩ := hvalid
      exact ⟨rfl, hname.symm, by rw [hname]; simpa using hrun⟩

/-- **A loadable directory**: `List` succeeds, and no tombstone fails to decode. -/
structure Loadable (d : Files) : Prop where
  listed : ∃ records, d.list = .ok records
  tombstones : ∀ runId, d.loadCancellationTombstone runId ≠
    .error (.error "decode cancellation tombstone")

theorem loadable_of_describes (h : Describes d.read inbox) : d.Loadable where
  listed := ⟨_, list_eq h⟩
  tombstones runId := by
    rcases hget : inbox.tombstones.get runId with _ | tombstone
    · rw [loadCancellationTombstone_none h hget]
      simp
    · rw [loadCancellationTombstone_some h hget]
      simp

def recordAt (d : Files) (runId : String) : Option Record :=
  match d.read (.record runId) with
  | some (.record record) => some record
  | _ => none

def tombstoneAt (d : Files) (runId : String) : Option CancellationTombstone :=
  match d.read (.tombstone runId) with
  | some (.tombstone tombstone) => some tombstone
  | _ => none

/-- The Run a tombstone file is about. -/
def FileName.tombstone? : FileName → Option String
  | .tombstone runId => some runId
  | _ => none

/-- **A directory that loads describes an inbox.** -/
theorem describes_of_loadable (hl : d.Loadable) : ∃ inbox, Describes d.read inbox := by
  obtain ⟨records, hlist⟩ := hl.listed
  -- a record that is there was listed, so it decodes under its own id
  have hrecord : ∀ runId, d.read (.record runId) = (d.recordAt runId).map .record ∧
      ∀ record, d.recordAt runId = some record →
        record.runId = runId ∧ isContractRunID runId = true := by
    intro runId
    rcases hread : d.read (.record runId) with _ | content
    · simp [recordAt, hread]
    · have hmem : runId ∈ d.recordNames := by
        rw [mem_recordNames, hread]
        rfl
      obtain ⟨record, hok⟩ := mapM_ok hlist runId hmem
      obtain ⟨hshown, hid, hvalid⟩ := read_of_listed hok
      rw [hread] at hshown
      cases hshown
      simp [recordAt, hread, hid, hvalid]
  -- a tombstone that is there loads
  have htombstone : ∀ runId,
      d.read (.tombstone runId) = (d.tombstoneAt runId).map .tombstone := by
    intro runId
    have hdecodes := hl.tombstones runId
    unfold loadCancellationTombstone at hdecodes
    unfold tombstoneAt
    rcases hread : d.read (.tombstone runId) with _ | content
    · rfl
    · rw [hread] at hdecodes
      cases content with
      | tombstone t => rfl
      | torn => exact absurd rfl hdecodes
      | record r => exact absurd rfl hdecodes
  -- the inbox is what the files show
  obtain ⟨records, hrecords⟩ := Table.exists_of_keys d.recordAt d.recordNames fun runId h => by
    rw [mem_recordNames, (hrecord runId).1, Option.isSome_map]
    exact h
  obtain ⟨tombstones, htombstones⟩ := Table.exists_of_keys d.tombstoneAt
      (d.names.keys.filterMap FileName.tombstone?) fun runId h => by
    rw [List.mem_filterMap]
    refine ⟨.tombstone runId, ?_, rfl⟩
    have hthere : (d.read (.tombstone runId)).isSome := by
      rw [htombstone runId, Option.isSome_map]
      exact h
    rw [Disk.read, Option.isSome_map] at hthere
    exact Table.mem_keys.mpr hthere
  refine ⟨⟨records, tombstones⟩, ?_, ?_, ?_⟩
  · intro runId
    rw [(hrecord runId).1, hrecords]
  · intro runId
    rw [htombstone runId, htombstones]
  · intro runId record hget
    rw [hrecords] at hget
    exact (hrecord runId).2 record hget

end Files

/-! ## The operations -/

/-- The answer on the files, as an answer of the inbox. -/
def Files.onInbox {α : Type} (inbox : Inbox) :
    Except Failure (α × Files.Writes) → Except Failure α × Inbox
  | .ok (result, writes) => (.ok result, writes.effect inbox)
  | .error error => (.error error, inbox)

section Operations

variable {config : Config} {d : Files} {inbox : Inbox}

theorem ite_refines {α : Type} {c : Prop} [Decidable c] {x x' : InboxM α}
    {y y' : Except Failure (α × Files.Writes)} (hpos : c → x inbox = Files.onInbox inbox y)
    (hneg : ¬c → x' inbox = Files.onInbox inbox y') :
    (if c then x else x') inbox = Files.onInbox inbox (if c then y else y') := by
  split
  · next hc => exact hpos hc
  · next hc => exact hneg hc

theorem accept_refines (h : Describes d.read inbox) (request : RunRequest) :
    Inbox.accept config request inbox = Files.onInbox inbox (d.accept config request) := by
  refine ite_refines (fun _ => rfl) fun _ => ite_refines (fun _ => rfl) fun _ => ?_
  rw [Tx.get_bind]
  rcases hget : inbox.records.get request.runId with _ | existing
  · rw [Files.load_none h hget]
    rfl
  · rw [Files.load_some h hget]
    exact ite_refines (fun _ => rfl) fun _ => rfl

theorem load_refines {α : Type} (h : Describes d.read inbox) (runId : String)
    {f : Record → InboxM α} {g : Record → Except Failure (α × Files.Writes)}
    (hrest : ∀ record, inbox.records.get runId = some record →
      f record inbox = Files.onInbox inbox (g record)) :
    (Inbox.load runId >>= f) inbox = Files.onInbox inbox (d.load runId >>= g) := by
  rcases hget : inbox.records.get runId with _ | record
  · rw [Tx.bind_error (Inbox.load_none hget), Files.load_none h hget]
    rfl
  · rw [Tx.bind_ok (Inbox.load_some hget), Files.load_some h hget]
    exact hrest record hget

theorem appendEvent_refines (h : Describes d.read inbox) (runId : String) (state : State)
    (sequence : Nat) (message : OutboxMessage) :
    Inbox.appendEvent runId state sequence message inbox =
      Files.onInbox inbox (d.appendEvent runId state sequence message) :=
  load_refines h runId fun _ _ =>
    ite_refines (fun _ => rfl) fun _ => ite_refines (fun _ => rfl) fun _ => rfl

theorem appendSupplementalEvidence_refines (h : Describes d.read inbox) (runId : String)
    (value : SupplementalMessage) :
    Inbox.appendSupplementalEvidence runId value inbox =
      Files.onInbox inbox (d.appendSupplementalEvidence runId value) := by
  refine load_refines h runId fun record _ => ite_refines (fun _ => rfl) fun _ => ?_
  rcases Inbox.supplementalFor value.operationId record.events with _ | existing
  · exact ite_refines (fun _ => rfl) fun _ => rfl
  · exact ite_refines (fun _ => rfl) fun _ => rfl

theorem update_refines (h : Describes d.read inbox) (runId : String) (state : State)
    (sequence : Nat) :
    Inbox.update runId state sequence inbox =
      Files.onInbox inbox (d.update runId state sequence) :=
  load_refines h runId fun _ _ => ite_refines (fun _ => rfl) fun _ => rfl

theorem transitionLocalState_refines (h : Describes d.read inbox) (runId : String)
    (expected next : State) :
    Inbox.transitionLocalState runId expected next inbox =
      Files.onInbox inbox (d.transitionLocalState runId expected next) :=
  load_refines h runId fun _ _ => ite_refines (fun _ => rfl) fun _ => rfl

theorem quarantineIncompatibleTrace_refines (h : Describes d.read inbox) (runId : String) :
    Inbox.quarantineIncompatibleTrace runId inbox =
      Files.onInbox inbox (d.quarantineIncompatibleTrace runId) := by
  refine ite_refines (fun _ => rfl) fun _ => ?_
  rw [h.records, Option.isNone_map, Tx.get_bind]
  exact ite_refines (fun _ => rfl) fun _ => rfl

theorem recordCancellation_refines (h : Describes d.read inbox) (requested : RunCancelRequest) :
    Inbox.recordCancellation requested inbox =
      Files.onInbox inbox (d.recordCancellation requested) := by
  refine ite_refines (fun _ => rfl) fun _ => ?_
  rw [Tx.get_bind]
  have hcheck : d.checkCancellation requested =
      if (inbox.records.get requested.runId).all (Inbox.cancellationMatches requested) = false then
        throw (.error "Run cancellation identity mismatch")
      else pure () := by
    unfold Files.checkCancellation
    rcases hget : inbox.records.get requested.runId with _ | record
    · rw [Files.load_none h hget]
      rfl
    · rw [Files.load_some h hget]
      rfl
  rw [hcheck]
  by_cases hmatch :
      (inbox.records.get requested.runId).all (Inbox.cancellationMatches requested) = false
  · rw [if_pos hmatch, if_pos hmatch]; rfl
  rw [if_neg hmatch, if_neg hmatch]
  rcases hget : inbox.tombstones.get requested.runId with _ | existing
  · rw [Files.loadCancellationTombstone_none h hget]
    rfl
  · rw [Files.loadCancellationTombstone_some h hget]
    dsimp only [pure_bind]
    by_cases hsame : existing ≠ Inbox.tombstoneOf requested
    · rw [if_pos hsame]
      simp [hsame, Files.onInbox, throw, throwThe, MonadExceptOf.throw]
    · rw [if_neg hsame]
      simp [hsame]
      rfl

theorem hasCancellation_refines (h : Describes d.read inbox) (request : RunRequest) :
    Inbox.hasCancellation request inbox = Files.onInbox inbox (d.hasCancellation request) := by
  refine ite_refines (fun _ => rfl) fun _ => ?_
  rw [Tx.get_bind]
  rcases hget : inbox.tombstones.get request.runId with _ | tombstone
  · rw [Files.loadCancellationTombstone_none h hget]
    rfl
  · rw [Files.loadCancellationTombstone_some h hget]
    exact ite_refines (fun _ => rfl) fun _ => rfl

theorem clearCancellation_refines (h : Describes d.read inbox) (runId : String) :
    Inbox.clearCancellation runId inbox = Files.onInbox inbox (d.clearCancellation runId) := by
  refine ite_refines (fun _ => rfl) fun _ => ?_
  rw [h.tombstones, Option.isNone_map]
  rcases hget : inbox.tombstones.get runId with _ | tombstone
  · -- the source returns early; there is nothing to remove
    rw [Tx.modify_apply, Table.remove_of_none hget]
    rfl
  · rfl

theorem list_refines (h : Describes d.read inbox) :
    Inbox.list inbox =
      Files.onInbox inbox (d.list.map fun records => (records, .nothing)) := by
  rw [Files.list_eq h]
  unfold Inbox.list
  rw [Tx.get_bind]
  have hvalid : (inbox.records.rows.insertionSort fun a b =>
      Inbox.fileName a.runId ≤ Inbox.fileName b.runId).find?
        (fun record => isContractRunID record.runId = false) = none := by
    rw [List.find?_eq_none]
    intro record hmem
    rw [List.mem_insertionSort] at hmem
    obtain ⟨id, hget⟩ := Table.mem_rows.mp hmem
    obtain ⟨hid, hrun⟩ := h.keyed id record hget
    rw [hid, hrun]
    decide
  simp only [hvalid]
  rfl

theorem get_refines (h : Describes d.read inbox) (runId : String) :
    Inbox.load runId inbox =
      Files.onInbox inbox ((d.load runId).map fun record => (record, .nothing)) := by
  rcases hget : inbox.records.get runId with _ | record
  · rw [Inbox.load_none hget, Files.load_none h hget]; rfl
  · rw [Inbox.load_some hget, Files.load_some h hget]; rfl

/-- **Refinement.** Each operation answers on the files what it answers on the inbox, and asks for
the writes that come to what it does to the inbox. -/
theorem onFiles_refines (h : Describes d.read inbox) (op : InboxOp) :
    op.run config inbox = Files.onInbox inbox (op.onFiles config d) := by
  cases op with
  | accept request => exact accept_refines h request
  | appendEvent runId state sequence message =>
    exact appendEvent_refines h runId state sequence message
  | appendSupplementalEvidence runId message =>
    exact appendSupplementalEvidence_refines h runId message
  | list => exact list_refines h
  | quarantineIncompatibleTrace runId => exact quarantineIncompatibleTrace_refines h runId
  | update runId state sequence => exact update_refines h runId state sequence
  | transitionLocalState runId expected next =>
    exact transitionLocalState_refines h runId expected next
  | get runId => exact get_refines h runId
  | recordCancellation requested => exact recordCancellation_refines h requested
  | hasCancellation request => exact hasCancellation_refines h request
  | clearCancellation runId => exact clearCancellation_refines h runId

end Operations

end AgentRoom.Bridge
