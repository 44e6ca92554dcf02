import AgentRoom.Bridge.Invariant
import AgentRoom.Bridge.Startup
import AgentRoom.Bridge.Preflight

/-!
# The order of a governed recovery

Whatever inbox, inventory and processes `RecoverAll` begins over, every possible start
is fenced and closed before anything else happens, and nothing else happens over an
inventory that contradicts itself.
-/

namespace AgentRoom.Bridge

open RuntimeExecutor GovernedRecovery

section Order

variable {config : Config} {governance : Governance} {s s' : Station}

/-! ## The discipline -/

/-- The possible starts are secured, and the inventory does not contradict itself. -/
def Settled (governance : Governance) (start s : Station) : Prop :=
  Secured start.store s ∧ ¬ Contradictory governance start.desk.inbox start.store

theorem Settled.step {start : Station} {op : RecoveryOp} {response : op.Resp}
    (h : Settled governance start s) (hs : StationStep config governance op response s s') :
    Settled governance start s' :=
  ⟨h.1.step hs, h.2⟩

/-- **The discipline of a governed recovery** that began over `start`: until all is settled it
lists the inbox and nothing else, and it never starts a Runtime. -/
def ordered (config : Config) (governance : Governance) (start : Station) :
    Proc.Discipline (bridgeInterface.sum fenceInterface) Station where
  allowed s op := match op with
    | .inl op => Startless op ∧ (op ≠ .inbox .list → Settled governance start s)
    | .inr _ => True
  next s op response s' := StationStep config governance op response s s'

/-- What a program that returns has settled. -/
def Settles (governance : Governance) (start s : Station) (r : Except Failure Unit) : Prop :=
  r = .ok () → Settled governance start s

/-! ## The governed recovery keeps the discipline -/

variable {start : Station}

/-- Nothing but processes has changed. -/
structure Untouched (start s : Station) : Prop where
  desk : s.desk = start.desk
  store : s.store = start.store

/-- **The loop over the possible starts.** Those it has not come to are as they were found; the
others are stopped. -/
structure Fencing (start : Station) (remaining : List RuntimeAdmissionView) (s : Station) :
    Prop where
  desk : s.desk = start.desk
  stored : ∀ view ∈ remaining, s.store.views.get view.spec.runId = some view
  distinct : (remaining.map (·.spec.runId)).Nodup
  done : ∀ runId view, start.store.views.get runId = some view → view.state = .starting →
    (view ∈ remaining ∧ view.spec.runId = runId) ∨ Stopped runId view s

variable {view : RuntimeAdmissionView} {remaining : List RuntimeAdmissionView}

theorem Fencing.skip (h : Fencing start (view :: remaining) s) (hstate : view.state ≠ .starting) :
    Fencing start remaining s where
  desk := h.desk
  stored other hmem := h.stored other (by simp [hmem])
  distinct := (List.nodup_cons.mp h.distinct).2
  done runId other hget hstarting := by
    rcases h.done runId other hget hstarting with ⟨hmem, hid⟩ | hstopped
    · rcases List.mem_cons.mp hmem with rfl | hmem
      · exact absurd hstarting hstate
      · exact .inl ⟨hmem, hid⟩
    · exact .inr hstopped

/-- **One possible start is fenced, then closed.** -/
theorem keeps_closeStart {startDigest : String} {collected : Option String}
    (h : Fencing start (view :: remaining) s) (hstate : view.state = .starting)
    (hdigest : view.startDigest = some startDigest) :
    Proc.Keeps (ordered config governance start)
      (Proc.Ends fun s' _ => Fencing start remaining s') s
      (closeStart collected view startDigest) := by
  have hget := h.stored view (by simp)
  refine Proc.keeps_call trivial fun response s₁ hfence => ?_
  cases response with
  | error e => exact Proc.ends_fail
  | ok _ =>
    have hfenced := hfence
    refine Proc.keeps_call trivial fun response s₂ hstop => ?_
    cases response with
    | error e => exact Proc.ends_fail
    | ok closed =>
      dsimp only
      split
      swap
      · exact Proc.ends_fail
      refine Proc.ends_ret ?_
      obtain ⟨store₁, alive₁, hperforms₁, rfl⟩ := hfence.fence_inv
      obtain ⟨hstore₁, habsent⟩ := hperforms₁.fenced
      obtain ⟨store₂, alive₂, hperforms₂, rfl⟩ := hstop.fence_inv
      obtain ⟨now, hrun⟩ := hperforms₂.stopped
      dsimp only at hrun hperforms₂
      subst hstore₁
      -- the process is gone after the first answer, the inventory says so after the second
      have hstopped : closed.state = .stopped ∧ store₂.views =
          s.store.views.put view.spec.runId closed := by
        rcases @FenceStore.stop_cases governance view.spec.runId view.admissionDigest
          startDigest .unknown now s.store with
          ⟨r, heq, hr⟩ | ⟨view', -, -, heq⟩
        · rw [heq] at hrun
          cases hrun
          obtain ⟨hsame, hclosed⟩ := hr closed rfl
          rw [hget] at hsame
          cases hsame
          rw [hstate] at hclosed
          cases hclosed
        · rw [heq] at hrun
          cases hrun
          exact ⟨rfl, rfl⟩
      have hothers : ∀ other ∈ remaining, other.spec.runId ≠ view.spec.runId := by
        intro other hmem heq
        exact (List.nodup_cons.mp h.distinct).1 (List.mem_map.mpr ⟨other, hmem, heq⟩)
      refine ⟨h.desk, fun other hmem => ?_, (List.nodup_cons.mp h.distinct).2,
        fun runId other hfound hstarting => ?_⟩
      · dsimp only
        rw [hstopped.2, Table.get_put_ne _ _ (hothers other hmem)]
        exact h.stored other (by simp [hmem])
      · rcases h.done runId other hfound hstarting with ⟨hmem, hid⟩ | hdone
        · rcases List.mem_cons.mp hmem with rfl | hmem
          · refine .inr ⟨⟨s.history, [], [], startDigest, closed, by simp, hdigest⟩, ?_, ?_⟩
            · intro d hd hmem
              exact habsent d hd (hperforms₂.move.2 hmem)
            · refine ⟨closed, ?_, hstopped.1⟩
              dsimp only
              rw [hstopped.2, hid, Table.get_put_self]
          · exact .inl ⟨hmem, hid⟩
        · exact .inr ((hdone.step hfence).step hstop)

/-- **Every possible start is closed by the end of the loop.** -/
theorem keeps_fenceStarting (views : List RuntimeAdmissionView) (collected : Option String)
    (viewsByRun : Table String RuntimeAdmissionView)
    (hvalid : ∀ view ∈ views, validateView governance view = true)
    (h : Fencing start views s) :
    Proc.Keeps (ordered config governance start)
      (Proc.Ends fun s' r => Fencing start [] s' ∧ r.1 = collected) s
      (fenceStarting views collected viewsByRun) := by
  induction views generalizing viewsByRun s with
  | nil => exact Proc.ends_ret ⟨h, rfl⟩
  | cons view views ih =>
    have hrest : ∀ other ∈ views, validateView governance other = true :=
      fun other hmem => hvalid other (by simp [hmem])
    unfold fenceStarting
    by_cases hstate : view.state = .starting
    · rw [if_neg (by simp [hstate])]
      rcases hdigest : view.startDigest with _ | startDigest
      · -- a possible start has a digest
        have hview := hvalid view (by simp)
        unfold validateView at hview
        rw [hstate, hdigest] at hview
        split at hview <;> cases hview
      · exact Proc.ends_bind (keeps_closeStart h hstate hdigest) fun s₁ closed h₁ =>
          ih _ hrest h₁
    · rw [if_pos hstate]
      exact ih _ hrest (h.skip hstate)

theorem Fencing.secured (h : Fencing start [] s) : Secured start.store s := by
  intro runId view hget hstate
  rcases h.done runId view hget hstate with ⟨hmem, -⟩ | hstopped
  · cases hmem
  · exact hstopped

variable {op : Op}

theorem settled_op (hs : Settled governance start s) (hop : Startless op) :
    (ordered config governance start).allowed s (.inl op) ∧
      ∀ response s', (ordered config governance start).next s (.inl op) response s' →
        Settled governance start s' :=
  ⟨⟨hop, fun _ => hs⟩, fun _ _ hn => hs.step hn⟩

variable {records : List Record} {views : List RuntimeAdmissionView}

/-- **What follows the two listings.** -/
theorem keeps_recoverInventory
    (hrecords : ∀ record, record ∈ records ↔ ∃ id, start.desk.inbox.records.get id = some record)
    (hviews : ∀ runId view, start.store.views.get runId = some view ↔
      view ∈ views ∧ view.spec.runId = runId) (h : Untouched start s) :
    Proc.Keeps (ordered config governance start) (Settles governance start) s
      (recoverInventory governance config records views) := by
  unfold recoverInventory
  rcases hindex : indexViews governance views .empty with e | viewsByRun
  · exact nofun
  · obtain ⟨hvalid, hdistinct, -, -⟩ := indexViews_ok hindex
    have hfencing : Fencing start views s :=
      { desk := h.desk
        stored := fun view hmem => by
          rw [h.store]
          exact (hviews _ view).mpr ⟨hmem, rfl⟩
        distinct := hdistinct
        done := fun runId view hget _ => .inl ((hviews runId view).mp hget) }
    change Proc.Keeps _ _ s ((fenceStarting views _ viewsByRun).bind _)
    refine Proc.keeps_bind (keeps_fenceStarting views _ viewsByRun hvalid hfencing)
      (fun s₁ r hr => ?_) fun _ _ _ => nofun
    obtain ⟨hfenced, hcollected⟩ := hr r rfl
    obtain ⟨collected, viewsByRun'⟩ := r
    dsimp only at hcollected ⊢
    rcases hpreflight : preflight governance records views viewsByRun with _ | message
    · rw [hpreflight] at hcollected
      subst hcollected
      have hsettled : Settled governance start s₁ :=
        ⟨hfenced.secured, not_contradictory hrecords hviews hindex hpreflight⟩
      have hstartless : Proc.Only Startless (recoverRecords config viewsByRun' records) :=
        startless_recoverRecords viewsByRun' records
      refine Proc.Keeps.mono ?_ fun s' r hs _ => hs
      exact hstartless.keeps_inl (fun _ _ hs hop => settled_op hs hop) hsettled
    · rw [hpreflight] at hcollected
      subst hcollected
      exact nofun

theorem mem_listed {inbox inbox' : Inbox}
    (h : Performs config (.inbox .list) inbox (.ok records) inbox') (record : Record) :
    record ∈ records ↔ ∃ id, inbox.records.get id = some record := by
  have hrun : Inbox.list inbox = (.ok records, inbox') := h.inbox_ok
  rcases Inbox.list_cases inbox with ⟨e, hl⟩ | hl
  · rw [hl] at hrun
    cases hrun
  · rw [hl] at hrun
    cases hrun
    exact (List.mem_insertionSort _).trans Table.mem_rows

/-- A listing of the inventory lists its views, each under its own Run. -/
theorem mem_listedViews {store : FenceStore} (h : (FenceStore.list store).1 = .ok views)
    (runId : String) (view : RuntimeAdmissionView) :
    store.views.get runId = some view ↔ view ∈ views ∧ view.spec.runId = runId := by
  unfold FenceStore.list at h
  rw [Tx.get_bind] at h
  split at h
  · rename_i hnamed
    have hown : ∀ id other, store.views.get id = some other → other.spec.runId = id := by
      intro id other hget
      have hkey := List.all_eq_true.mp hnamed id (Table.mem_keys.mpr (by rw [hget]; rfl))
      rw [hget] at hkey
      simpa using hkey
    cases h
    constructor
    · intro hget
      exact ⟨(List.mem_insertionSort _).mpr (Table.mem_rows.mpr ⟨runId, hget⟩), hown _ _ hget⟩
    · rintro ⟨hmem, rfl⟩
      obtain ⟨id, hid⟩ := Table.mem_rows.mp ((List.mem_insertionSort _).mp hmem)
      rw [hown id view hid]
      exact hid
  · cases h

/-- **A governed recovery keeps the discipline**, whatever it begins over. -/
theorem keeps_recover (h : Untouched start s) :
    Proc.Keeps (ordered config governance start) (Settles governance start) s
      (GovernedRecovery.recover governance config) := by
  refine Proc.keeps_call trivial fun response s₁ hfence => ?_
  obtain ⟨store₁, alive₁, hperforms₁, rfl⟩ := hfence.fence_inv
  cases response with
  | error e => exact nofun
  | ok _ =>
    cases hperforms₁ with
    | fenceAll _ _ =>
    refine Proc.keeps_call ⟨rfl, fun hne => absurd rfl hne⟩ fun response s₂ hlist => ?_
    obtain ⟨inbox₂, alive₂, hperforms₂, -, rfl⟩ := hlist.bridge_inv
    cases response with
    | error e => exact nofun
    | ok records =>
      refine Proc.keeps_call trivial fun response s₃ hviews => ?_
      obtain ⟨store₃, alive₃, hperforms₃, rfl⟩ := hviews.fence_inv
      cases response with
      | error e => exact nofun
      | ok views =>
        obtain ⟨hstore, hlisted⟩ := hperforms₃.listed
        dsimp only at hstore hlisted hperforms₂
        rw [h.desk] at hperforms₂
        rw [h.store] at hlisted
        refine keeps_recoverInventory (mem_listed hperforms₂) (mem_listedViews hlisted)
          ⟨?_, hstore.trans h.store⟩
        dsimp only
        rw [h.desk]
        exact performed_list hperforms₂

/-! ## Runs of `RecoverAll` -/

/-- **What holds in every state of a run** that began at `start`. -/
structure OrderInv (config : Config) (governance : Governance) (start : Station) (s : Startup) :
    Prop where
  started : s.desk.started = start.desk.started
  /-- Nothing has happened to the desk, or all is settled. -/
  quiet : s.desk = start.desk ∨ Settled governance start s.toStation
  stage : match s.stage with
    | .governed x => Proc.Keeps (ordered config governance start) (Settles governance start)
        s.toStation x
    | .ordinary x => Proc.Only Startless x ∧ Settled governance start s.toStation
    | .recovered => Settled governance start s.toStation
    | .offline => True

theorem Desk.started_performed {d : Desk} (hop : Startless op) (response : op.Resp)
    (inbox : Inbox) :
    (d.performed op response inbox).started = d.started := by
  change d.started ++ op.starts = d.started
  rw [hop, List.append_nil]

variable {label : StartupLabel}

theorem orderInv_step {s s' : Startup} (h : OrderInv config governance start s)
    (hstep : StartupStep config governance label s s') :
    OrderInv config governance start s' := by
  have hstage := h.stage
  cases hstep with
  | @governedOp _ op k response station stage performs =>
    rw [stage] at hstage
    have hafter := hstage.2 response station performs
    cases op with
    | inl op =>
      obtain ⟨inbox, alive, hperforms, -, rfl⟩ := performs.bridge_inv
      obtain ⟨hop, hordered⟩ := hstage.1
      refine ⟨(Desk.started_performed hop response inbox).trans h.started, ?_, hafter⟩
      -- before the fences are settled the Bridge only lists
      by_cases hlist : op = .inbox .list
      · subst hlist
        rcases h.quiet with hquiet | hsettled
        · exact .inl ((performed_list hperforms).trans hquiet)
        · exact .inr (hsettled.step performs)
      · exact .inr ((hordered hlist).step performs)
    | inr op =>
      obtain ⟨store, alive, -, rfl⟩ := performs.fence_inv
      refine ⟨h.started, ?_, hafter⟩
      rcases h.quiet with hquiet | hsettled
      · exact .inl hquiet
      · exact .inr (hsettled.step performs)
  | governedDone stage =>
    rw [stage] at hstage
    have hsettled := hstage rfl
    exact ⟨h.started, .inr hsettled, startless_recover, hsettled⟩
  | governedFailed stage => exact ⟨h.started, h.quiet, trivial⟩
  | @ordinaryOp _ op k response station stage performs =>
    rw [stage] at hstage
    obtain ⟨hstartless, hsettled⟩ := hstage
    have hafter := hsettled.step performs
    obtain ⟨inbox, alive, -, -, rfl⟩ := performs.bridge_inv
    exact ⟨(Desk.started_performed hstartless.1 response inbox).trans h.started, .inr hafter,
      hstartless.2 response, hafter⟩
  | ordinaryDone stage =>
    rw [stage] at hstage
    exact ⟨h.started, h.quiet, hstage.2⟩
  | ordinaryFailed stage => exact ⟨h.started, h.quiet, trivial⟩

/-- **The order holds in every run**, whatever it began over. -/
theorem orderInv_run {s₀ s : Startup} (hinit : (startup config governance).init s₀)
    (hrun : (startup config governance).Steps s₀ s) :
    OrderInv config governance s₀.toStation s := by
  induction hrun with
  | refl =>
    refine ⟨rfl, .inl rfl, ?_⟩
    rw [hinit.1]
    exact keeps_recover ⟨rfl, rfl⟩
  | tail _ hstep ih =>
    obtain ⟨label, hstep⟩ := hstep
    exact orderInv_step ih hstep

/-- A step that changes the inbox, sends something or begins the ordinary recovery is taken when
all is settled. -/
theorem OrderInv.settled {s s' : Startup} (h : OrderInv config governance start s)
    (hstep : StartupStep config governance label s s')
    (hacts : s'.desk ≠ s.desk ∨ ∃ x, s'.stage = .ordinary x) :
    Settled governance start s.toStation := by
  have hstage := h.stage
  cases hstep with
  | @governedOp _ op k response station stage performs =>
    rw [stage] at hstage
    rcases hacts with hdesk | ⟨x, hx⟩
    · cases op with
      | inl op =>
        obtain ⟨inbox, alive, hperforms, -, rfl⟩ := performs.bridge_inv
        by_cases hlist : op = .inbox .list
        · subst hlist
          exact absurd (performed_list hperforms) hdesk
        · exact hstage.1.2 hlist
      | inr op =>
        obtain ⟨store, alive, -, rfl⟩ := performs.fence_inv
        exact absurd rfl hdesk
    · cases hx
  | governedDone stage =>
    rw [stage] at hstage
    exact hstage rfl
  | governedFailed stage =>
    rcases hacts with hdesk | ⟨x, hx⟩
    · exact absurd rfl hdesk
    · cases hx
  | ordinaryOp stage performs =>
    rw [stage] at hstage
    exact hstage.2
  | ordinaryDone stage =>
    rw [stage] at hstage
    exact hstage.2
  | ordinaryFailed stage =>
    rw [stage] at hstage
    exact hstage.2

/-- **Over a contradiction nothing happens.** -/
theorem OrderInv.contradictory {s : Startup} (h : OrderInv config governance start s)
    (hc : Contradictory governance start.desk.inbox start.store) :
    s.desk = start.desk ∧ (∀ x, s.stage ≠ .ordinary x) ∧ s.stage ≠ .recovered := by
  have hnot : ¬ Settled governance start s.toStation := fun hsettled => hsettled.2 hc
  have hstage := h.stage
  refine ⟨h.quiet.resolve_right hnot, fun x hx => ?_, fun hrecovered => ?_⟩
  · rw [hx] at hstage
    exact hnot hstage.2
  · rw [hrecovered] at hstage
    exact hnot hstage

end Order

/-! ## The result -/

/-- **Governed recovery fences before it replays.** Over any inbox, any inventory and any
processes: a step that changes the inbox, sends something or begins the ordinary recovery is
taken only when every view that may still be running was fenced and stopped; over views and
records that contradict each other the inbox stays as it is, nothing is sent and the Bridge is
never recovered; and no Runtime is started. -/
theorem governed_recovery_order {config : Config} {governance : Governance} {s₀ s : Startup}
    (hinit : (startup config governance).init s₀)
    (hrun : (startup config governance).Steps s₀ s) :
    (∀ label s', (startup config governance).step label s s' →
      s'.desk.inbox ≠ s.desk.inbox ∨ s'.desk.sent ≠ s.desk.sent ∨
        (∃ x, s'.stage = .ordinary x) → Secured s₀.store s.toStation) ∧
    (Contradictory governance s₀.desk.inbox s₀.store →
      s.desk.inbox = s₀.desk.inbox ∧ s.desk.sent = [] ∧ (∀ x, s.stage ≠ .ordinary x) ∧
        s.stage ≠ .recovered) ∧
    s.desk.started = s₀.desk.started := by
  have h := orderInv_run hinit hrun
  refine ⟨fun label s' hstep hacts => ?_, fun hc => ?_, h.started⟩
  · refine (h.settled hstep ?_).1
    rcases hacts with hinbox | hsent | hordinary
    · exact .inl fun hdesk => hinbox (by rw [hdesk])
    · exact .inl fun hdesk => hsent (by rw [hdesk])
    · exact .inr hordinary
  · obtain ⟨hdesk, hordinary, hrecovered⟩ := h.contradictory hc
    exact ⟨by rw [hdesk], by rw [hdesk]; exact hinit.2.1, hordinary, hrecovered⟩

/-- Every time is the same, and no request has a manifest. -/
def plainGovernance : Governance where
  decodeGovernedManifest _ := none
  parseTime _ := some 1
  profileTime _ := ""

def possibleStart : RuntimeAdmissionView where
  spec :=
    { runId := sampleRequest.runId, taskId := "", agentId := "", deviceId := "", planId := ""
      planRevision := 1, planDigest := "", approvalOperationId := "", planControlRevision := 1
      nodeKey := "", dispatchGeneration := 1, roomId := "", taskRevision := 1
      definitionRevision := 1, criteriaRevision := 1, manifestDigest := "", grantId := ""
      grantRevision := 1, grantDigest := "", repositoryId := "", bindingId := "", leaseId := ""
      workspaceRef := "", workspaceGeneration := "", runtimeProfileId := ""
      runtimeProfileRevision := 1, runtimeProfileDigest := "", preparedOperationId := ""
      preparedIntentDigest := "", preparedIdentityDigest := "", baseCommit := ""
      preparedCommit := "", preparedTree := "", outputBaseCommit := "", workspaceIssuedAt := ""
      workspaceExpiresAt := "", grantExpiresAt := "", deadline := "" }
  admissionDigest := "admission"
  state := .starting
  claimedAt := ""
  startDigest := some "start"
  authorityCheckedAt := some ""
  outcome := none
  stoppedAt := none

/-- A possible start without a record, and its process alive. -/
def orphanStart : Startup where
  desk := { inbox := .empty, started := [], fenced := [], sent := [] }
  store := { views := Table.empty.put sampleRequest.runId possibleStart }
  alive := {possibleStart.identity "start"}
  history := []
  stage := .governed (GovernedRecovery.recover plainGovernance plainConfig)

/-- The possible start once it is closed. -/
def closedStart : RuntimeAdmissionView := FenceStore.closed plainGovernance possibleStart .unknown 1

/-- The recovery over the orphan fences its process, closes it and fails. -/
theorem orphanStart_run : ∃ s, (startup plainConfig plainGovernance).Steps orphanStart s ∧
    s.stage = .offline ∧ s.store.views.get sampleRequest.runId = some closedStart := by
  have hlist : (FenceStore.list orphanStart.store).1 = .ok [possibleStart] := by decide
  have hstop : FenceStore.stop plainGovernance sampleRequest.runId "admission" "start" .unknown 1
      orphanStart.store = (.ok closedStart, { orphanStart.store with
        views := orphanStart.store.views.put sampleRequest.runId closedStart }) := rfl
  have hfirst : FencePerforms plainGovernance .fenceAll orphanStart.store orphanStart.alive
      (.ok ()) orphanStart.store orphanStart.alive := .fenceAll _ (Set.Subset.refl _)
  have hviews : FencePerforms plainGovernance .list orphanStart.store orphanStart.alive
      (FenceStore.list orphanStart.store).1 orphanStart.store orphanStart.alive :=
    .list (Set.Subset.refl _)
  rw [hlist] at hviews
  have hfence : FencePerforms plainGovernance (.fenceAndWait possibleStart) orphanStart.store
      orphanStart.alive (.ok ()) orphanStart.store ∅ :=
    .fenceAndWait _ (Set.empty_subset _) fun _ _ _ hmem => hmem
  have hclose : FencePerforms plainGovernance
      (.stop sampleRequest.runId "admission" "start" .unknown) orphanStart.store ∅ _ _ ∅ :=
    .stop 1 (Set.Subset.refl _)
  rw [hstop] at hclose
  have hrecords : Performs plainConfig (.inbox .list) Inbox.empty (.ok []) Inbox.empty :=
    .inbox .list Inbox.empty
  refine ⟨_, .tail (.tail (.tail (.tail (.tail (.tail .refl
    ⟨_, .governedOp rfl (.fence hfirst)⟩)
    ⟨_, .governedOp rfl (.bridge hrecords (Set.Subset.refl _))⟩)
    ⟨_, .governedOp rfl (.fence hviews)⟩)
    ⟨_, .governedOp rfl (.fence hfence)⟩)
    ⟨_, .governedOp rfl (.fence hclose)⟩)
    ⟨_, .governedFailed rfl⟩, rfl, Table.get_put_self _ _ _⟩

/-- The orphan keeps the Bridge offline. -/
theorem orphanStart_offline : ∃ s, (startup plainConfig plainGovernance).Steps orphanStart s ∧
    s.stage = .offline ∧ s.desk.sent = [] ∧ s.desk.started = [] := by
  obtain ⟨s, hrun, hstage, -⟩ := orphanStart_run
  have horphan : Contradictory plainGovernance orphanStart.desk.inbox orphanStart.store :=
    .orphan (Table.get_put_self _ _ _) fun id record hget => by cases hget
  obtain ⟨-, hquiet, hstarted⟩ := governed_recovery_order ⟨rfl, rfl, rfl⟩ hrun
  exact ⟨s, hrun, hstage, (hquiet horphan).2.1, hstarted⟩

end AgentRoom.Bridge
