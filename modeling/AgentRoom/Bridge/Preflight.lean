import AgentRoom.Bridge.GovernedRecovery

/-!
# What the preflight lets pass

The preflight of a governed recovery collects an error for each view and record that
does not fit. An inventory it collects nothing about does not contradict itself.
-/

namespace AgentRoom.Bridge

open RuntimeExecutor GovernedRecovery

/-! ## Contradictions -/

/-- **The views and the records contradict each other.** -/
inductive Contradictory (governance : Governance) (inbox : Inbox) (store : FenceStore) : Prop
  /-- A view says of itself what cannot be. -/
  | view {runId : String} {view : RuntimeAdmissionView}
      (stored : store.views.get runId = some view) (bad : validateView governance view = false)
  /-- A governed record cannot be read. -/
  | record {runId : String} {record : Record} (stored : inbox.records.get runId = some record)
      (governed : record.request.governed = true) (bad : readable record = false)
  /-- The Run was admitted for another request. -/
  | request {runId : String} {record : Record} {view : RuntimeAdmissionView}
      (stored : inbox.records.get runId = some record) (governed : record.request.governed = true)
      (known : store.views.get record.runId = some view)
      (bad : validateRuntimeAdmissionRequest governance record.request view = false)
  /-- The Runtime worked on the Run, and nothing says that it was started. -/
  | unstarted {runId : String} {record : Record} (stored : inbox.records.get runId = some record)
      (governed : record.request.governed = true) (working : record.state = .working)
      (unknown : ∀ view, store.views.get record.runId = some view → view.state = .claimed)
  /-- The Runtime may have started, and the Run is still being prepared. -/
  | unprepared {runId : String} {record : Record} {view : RuntimeAdmissionView}
      (stored : inbox.records.get runId = some record) (governed : record.request.governed = true)
      (known : store.views.get record.runId = some view) (started : view.state ≠ .claimed)
      (preparing : record.state = .preparing)
  /-- A Run was admitted that has no governed record. -/
  | orphan {runId : String} {view : RuntimeAdmissionView}
      (stored : store.views.get runId = some view)
      (absent : ∀ id record, inbox.records.get id = some record →
        record.request.governed = true → record.runId ≠ view.spec.runId)

section Preflight

variable {governance : Governance}

/-! ## What is collected -/

/-- Errors that were collected stay collected. -/
theorem foldl_none {α : Type} {f : Option String → α → Option String}
    (hf : ∀ e a, (f (some e) a).isSome) {as : List α} {collected : Option String}
    (h : as.foldl f collected = none) : collected = none ∧ ∀ a ∈ as, f none a = none := by
  induction as generalizing collected with
  | nil => exact ⟨h, fun _ hmem => by cases hmem⟩
  | cons a as ih =>
    obtain ⟨hfirst, hrest⟩ := ih h
    have hstart : collected = none := by
      rcases collected with _ | e
      · rfl
      · have hsome := hf e a
        rw [hfirst] at hsome
        cases hsome
    subst hstart
    refine ⟨rfl, fun b hb => ?_⟩
    rcases List.mem_cons.mp hb with rfl | hb
    · exact hfirst
    · exact hrest b hb

theorem joinError_isSome (collected : Option String) (message : String) :
    (joinError collected message).isSome := by
  cases collected <;> rfl

theorem joinError_ne (collected : Option String) (message : String) :
    joinError collected message ≠ none := by
  cases collected <;> nofun

theorem checkRecord_isSome (viewsByRun : Table String RuntimeAdmissionView) (e : String)
    (record : Record) : (checkRecord governance viewsByRun (some e) record).isSome := by
  unfold checkRecord
  split
  · rfl
  · split
    · exact joinError_isSome _ _
    · dsimp only
      split
      · split
        · rfl
        · exact joinError_isSome _ _
      · exact joinError_isSome _ _

theorem checkView_isSome (records : List Record) (e : String) (view : RuntimeAdmissionView) :
    (checkView records (some e) view).isSome := by
  have hrun : (if governedRun records view.spec.runId then some e
      else joinError (some e) (inconsistentRun view.spec.runId)).isSome := by
    split
    · rfl
    · exact joinError_isSome _ _
  unfold checkView
  dsimp only
  split
  · exact hrun
  · exact hrun
  · exact hrun
  · exact joinError_isSome _ _

variable {viewsByRun : Table String RuntimeAdmissionView}

/-- A governed record that the preflight lets pass. -/
theorem checkRecord_none {record : Record}
    (h : checkRecord governance viewsByRun none record = none)
    (hgoverned : record.request.governed = true) :
    readable record = true ∧
      (viewsByRun.get record.runId).all
        (validateRuntimeAdmissionRequest governance record.request) = true ∧
      validateState record (viewsByRun.get record.runId) = true := by
  unfold checkRecord at h
  rw [if_neg (by simp [hgoverned])] at h
  split at h
  · exact absurd h (joinError_ne _ _)
  · rename_i hreadable
    dsimp only at h
    split at h
    · rename_i hstate
      split at h
      · rename_i hrequest
        exact ⟨by simpa using hreadable, hrequest, hstate⟩
      · exact absurd h (joinError_ne _ _)
    · exact absurd h (joinError_ne _ _)

theorem checkView_none {records : List Record} {view : RuntimeAdmissionView}
    (h : checkView records none view = none) : governedRun records view.spec.runId = true := by
  unfold checkView at h
  dsimp only at h
  by_cases hrun : governedRun records view.spec.runId = true
  · exact hrun
  · rw [if_neg hrun] at h
    split at h <;> exact absurd h (joinError_ne _ _)

/-! ## The index -/

/-- The views of an index are those it was made of. -/
theorem indexViews_ok {views : List RuntimeAdmissionView}
    {before : Table String RuntimeAdmissionView}
    (h : indexViews governance views before = .ok viewsByRun) :
    (∀ view ∈ views, validateView governance view = true) ∧
      (views.map (·.spec.runId)).Nodup ∧
      (∀ view ∈ views, before.get view.spec.runId = none ∧
        viewsByRun.get view.spec.runId = some view) ∧
      ∀ runId, (∀ view ∈ views, view.spec.runId ≠ runId) →
        viewsByRun.get runId = before.get runId := by
  induction views generalizing before with
  | nil =>
    cases h
    exact ⟨fun _ hmem => (by cases hmem), List.nodup_nil, fun _ hmem => (by cases hmem),
      fun _ _ => rfl⟩
  | cons view views ih =>
    unfold indexViews at h
    split at h
    · cases h
    · rename_i hnew
      split at h
      · cases h
      · rename_i hvalid
        obtain ⟨hvalids, hnodup, hindexed, hothers⟩ := ih h
        have hnone : before.get view.spec.runId = none := by simpa using hnew
        -- a later view of the same Run would have been refused
        have hdistinct : ∀ other ∈ views, other.spec.runId ≠ view.spec.runId := by
          intro other hmem heq
          have hput := (hindexed other hmem).1
          rw [heq, Table.get_put_self] at hput
          cases hput
        refine ⟨?_, ?_, ?_, ?_⟩
        · intro other hmem
          rcases List.mem_cons.mp hmem with rfl | hmem
          · simpa using hvalid
          · exact hvalids other hmem
        · refine List.nodup_cons.mpr ⟨fun hmem => ?_, hnodup⟩
          obtain ⟨other, hother, heq⟩ := List.mem_map.mp hmem
          exact hdistinct other hother heq
        · intro other hmem
          rcases List.mem_cons.mp hmem with rfl | hmem
          · refine ⟨hnone, ?_⟩
            rw [hothers _ hdistinct, Table.get_put_self]
          · obtain ⟨hput, hget⟩ := hindexed other hmem
            rw [Table.get_put_ne _ _ (hdistinct other hmem)] at hput
            exact ⟨hput, hget⟩
        · intro runId hne
          have hlater := hothers runId fun other hmem => hne other (by simp [hmem])
          rw [hlater, Table.get_put_ne _ _ (hne view (by simp)).symm]

/-- **What the preflight lets pass does not contradict itself.** -/
theorem not_contradictory {inbox : Inbox} {store : FenceStore} {records : List Record}
    {views : List RuntimeAdmissionView}
    (hrecords : ∀ record, record ∈ records ↔ ∃ id, inbox.records.get id = some record)
    (hviews : ∀ runId view, store.views.get runId = some view ↔
      view ∈ views ∧ view.spec.runId = runId)
    (hindex : indexViews governance views .empty = .ok viewsByRun)
    (h : preflight governance records views viewsByRun = none) :
    ¬ Contradictory governance inbox store := by
  obtain ⟨hvalid, -, hindexed, hothers⟩ := indexViews_ok hindex
  obtain ⟨hrecordsFold, hviewsOk⟩ := foldl_none (checkView_isSome records) h
  have hrecordsOk := (foldl_none (checkRecord_isSome viewsByRun) hrecordsFold).2
  -- the index holds what the inventory holds
  have hget : ∀ runId, viewsByRun.get runId = store.views.get runId := by
    intro runId
    rcases hstored : store.views.get runId with _ | view
    · have hnone := hothers runId fun view hmem heq => by
        rw [(hviews runId view).mpr ⟨hmem, heq⟩] at hstored
        cases hstored
      rw [hnone, Table.get_empty]
    · obtain ⟨hmem, rfl⟩ := (hviews runId view).mp hstored
      exact (hindexed view hmem).2
  intro hc
  cases hc with
  | @view runId view stored bad =>
    rw [hvalid view ((hviews runId view).mp stored).1] at bad
    cases bad
  | @record runId record stored governed bad =>
    have hpass := checkRecord_none (hrecordsOk record ((hrecords record).mpr ⟨_, stored⟩)) governed
    rw [hpass.1] at bad
    cases bad
  | @request runId record view stored governed known bad =>
    have hpass := checkRecord_none (hrecordsOk record ((hrecords record).mpr ⟨_, stored⟩)) governed
    have hrequest := hpass.2.1
    rw [hget, known, Option.all_some, bad] at hrequest
    cases hrequest
  | @unstarted runId record stored governed working unknown =>
    have hpass := checkRecord_none (hrecordsOk record ((hrecords record).mpr ⟨_, stored⟩)) governed
    have hstate := hpass.2.2
    rw [hget] at hstate
    rcases hstored : store.views.get record.runId with _ | view
    · rw [hstored] at hstate
      simp [validateState, working] at hstate
    · rw [hstored] at hstate
      simp [validateState, working, unknown view hstored] at hstate
  | @unprepared runId record view stored governed known started preparing =>
    have hpass := checkRecord_none (hrecordsOk record ((hrecords record).mpr ⟨_, stored⟩)) governed
    have hstate := hpass.2.2
    rw [hget, known] at hstate
    unfold validateState at hstate
    dsimp only at hstate
    split at hstate
    · exact started ‹_›
    · simp [preparing] at hstate
    · simp [preparing] at hstate
    · cases hstate
  | @orphan runId view stored absent =>
    have hrun := checkView_none (hviewsOk view ((hviews runId view).mp stored).1)
    obtain ⟨record, hmem, hmatch⟩ := List.any_eq_true.mp hrun
    simp only [Bool.and_eq_true, decide_eq_true_eq] at hmatch
    obtain ⟨id, hid⟩ := (hrecords record).mp hmem
    exact absent id record hid hmatch.1.1 hmatch.2

end Preflight

end AgentRoom.Bridge
