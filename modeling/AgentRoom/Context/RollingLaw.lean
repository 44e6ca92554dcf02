import AgentRoom.Context.Planner
import AgentRoom.Lib.Checks
import AgentRoom.Lib.System
import Mathlib.Data.List.Chain

/-!
# The law of rolling memory

One Room's tables under any sequence of the calls that write them: messages, the switches and
any number of workers, each calling with any lease, live or stale, at any time. A world also
keeps which generation committed which checkpoint.

`RollingInv` holds of every reachable world. What a checkpoint's parents cover is not in it:
every row names its parent, which ends where the row begins, so the chain of a row is found by
going down, and its ranges are put together on the way back up.
-/

namespace AgentRoom.Context

/-! ## The system -/

/-- The calls that write the two tables. -/
inductive RollingCall where
  | message (sequence : Nat)
  | enable
  | enableAll
  | disable
  | acquireLease (leaseToken : Nat) (now leaseExpiresAt : Time)
  | commitCheckpoint (checkpoint : RollingRoomCheckpoint) (expectedGeneration leaseToken : Nat)
      (now : Time)
  | recordFailure (expectedGeneration leaseToken : Nat)

/-- `drainRoom`, the one caller of `commitCheckpoint`, gives a rebase no parent. -/
def RollingCall.Drained : RollingCall → Prop
  | .commitCheckpoint checkpoint _ _ _ =>
    checkpoint.buildKind = .rebase → checkpoint.parentCheckpointId = none
  | _ => True

/-- The tables, with the checkpoints committed so far under their generations. -/
structure RollingWorld where
  memory : RollingMemory
  commits : List (Nat × RollingRoomCheckpoint)

namespace RollingWorld

/-- The world after a call. -/
def after (w : RollingWorld) : RollingCall → RollingWorld
  | .message sequence => { w with memory := w.memory.advanceDesired sequence }
  | .enable => { w with memory := w.memory.enable }
  | .enableAll => { w with memory := w.memory.enableAll }
  | .disable => { w with memory := w.memory.disable }
  | .acquireLease leaseToken now leaseExpiresAt =>
    if leaseExpiresAt ≤ now then w
    else
      match w.memory.acquireLease leaseToken now leaseExpiresAt with
      | none => w
      | some lease => { w with memory := { w.memory with state := lease } }
  | .commitCheckpoint checkpoint expectedGeneration leaseToken now =>
    match w.memory.commitCheckpoint checkpoint expectedGeneration leaseToken now with
    | .ok memory => ⟨memory, w.commits ++ [(expectedGeneration, checkpoint)]⟩
    | .error _ => w
  | .recordFailure expectedGeneration leaseToken =>
    { w with memory := w.memory.recordFailure expectedGeneration leaseToken }

end RollingWorld

/-- **Rolling memory.** A Room that had messages before the tables were made starts with them
desired. -/
def rolling : System RollingWorld RollingCall where
  init w := ∃ desired, w = ⟨RollingMemory.initial.advanceDesired desired, []⟩
  step call w w' := call.Drained ∧ w' = w.after call

/-! ## A commit -/

/-- The lease `commitCheckpoint` and `recordFailure` look for. -/
def RollingRoomState.Holds (state : RollingRoomState) (generation leaseToken : Nat) : Prop :=
  state.generation = generation ∧ state.leaseToken = some leaseToken

instance (state : RollingRoomState) (generation leaseToken : Nat) :
    Decidable (state.Holds generation leaseToken) := inferInstanceAs (Decidable (_ ∧ _))

/-- What a commit found, and the tables it left. -/
structure Committed (db db' : RollingMemory) (c : RollingRoomCheckpoint)
    (generation leaseToken : Nat) (now : Time) : Prop where
  holds : db.state.Holds generation leaseToken
  inForce : db.state.leaseExpiresAt.any (now < ·) = true
  forward : db.state.latestThroughSequence ≤ c.throughSequence
  incremental : c.buildKind = .incremental →
    c.parentCheckpointId = db.state.latestCheckpointId ∧
      c.inputFromSequenceExclusive = db.state.latestThroughSequence
  rebase : c.buildKind = .rebase → c.inputFromSequenceExclusive = 0
  proper : c.inputFromSequenceExclusive < c.throughSequence
  fresh : ∀ other ∈ db.checkpoints, other.checkpointId ≠ c.checkpointId
  rows : db'.checkpoints = db.checkpoints ++ [c]
  state : db'.state = { db.state with
    mode := .ready, latestCheckpointId := some c.checkpointId
    latestThroughSequence := c.throughSequence, leaseToken := none, leaseExpiresAt := none }

theorem insertCheckpoint_ok {db db' : RollingMemory} {c : RollingRoomCheckpoint}
    (h : db.insertCheckpoint c = .ok db') :
    (∀ other ∈ db.checkpoints, other.checkpointId ≠ c.checkpointId) ∧
      c.inputFromSequenceExclusive < c.throughSequence ∧
      db' = { db with checkpoints := db.checkpoints ++ [c] } := by
  unfold RollingMemory.insertCheckpoint at h
  split_ifs at h with _ _ _ hrow
  cases h
  simp only [Bool.not_eq_true, Bool.not_eq_false', RollingMemory.rowAccepted, Bool.and_eq_true,
    decide_eq_true_eq, List.all_eq_true] at hrow
  obtain ⟨⟨⟨⟨⟨⟨⟨hfresh, hproper⟩, -⟩, -⟩, -⟩, -⟩, -⟩, -⟩ := hrow
  exact ⟨hfresh, hproper, rfl⟩

theorem committed_of_ok {db db' : RollingMemory} {c : RollingRoomCheckpoint}
    {generation leaseToken : Nat} {now : Time}
    (h : db.commitCheckpoint c generation leaseToken now = .ok db') :
    Committed db db' c generation leaseToken now := by
  unfold RollingMemory.commitCheckpoint at h
  split_ifs at h with hlease hwater hincremental hrebase hcount
  obtain ⟨inserted, hinserted, hdone⟩ := Except.of_bind h
  obtain ⟨hfresh, hproper, rfl⟩ := insertCheckpoint_ok hinserted
  cases hdone
  push Not at hlease hwater hincremental hrebase
  obtain ⟨hgeneration, htoken, hforce⟩ := hlease
  exact {
    holds := ⟨hgeneration, htoken⟩
    inForce := by simpa using hforce
    forward := hwater.2
    incremental := hincremental
    rebase := hrebase
    proper := hproper
    fresh := hfresh
    rows := rfl
    state := rfl }

/-! ## What a call does -/

/-- A call that commits nothing. A lease it gives has a new generation. -/
structure Quiet (w w' : RollingWorld) : Prop where
  rows : w'.memory.checkpoints = w.memory.checkpoints
  commits : w'.commits = w.commits
  latestId : w'.memory.state.latestCheckpointId = w.memory.state.latestCheckpointId
  latest : w'.memory.state.latestThroughSequence = w.memory.state.latestThroughSequence
  lease : w'.memory.state.generation = w.memory.state.generation ∧
      (w'.memory.state.leaseToken = w.memory.state.leaseToken ∨
        w'.memory.state.leaseToken = none) ∨
    w'.memory.state.generation = w.memory.state.generation + 1

section Calls

variable {w w' : RollingWorld}

theorem Quiet.refl (w : RollingWorld) : Quiet w w := ⟨rfl, rfl, rfl, rfl, .inl ⟨rfl, .inl rfl⟩⟩

theorem quiet_enable (w : RollingWorld) : Quiet w (w.after .enable) :=
  ⟨rfl, rfl, rfl, rfl, .inl ⟨rfl, .inl rfl⟩⟩

theorem quiet_acquireLease (w : RollingWorld) (leaseToken : Nat) (now leaseExpiresAt : Time) :
    Quiet w (w.after (.acquireLease leaseToken now leaseExpiresAt)) := by
  simp only [RollingWorld.after]
  split
  · exact .refl w
  · split
    · exact .refl w
    · rename_i lease hlease
      unfold RollingMemory.acquireLease at hlease
      split_ifs at hlease
      cases hlease
      exact ⟨rfl, rfl, rfl, rfl, .inr rfl⟩

theorem quiet_recordFailure (w : RollingWorld) (expectedGeneration leaseToken : Nat) :
    Quiet w (w.after (.recordFailure expectedGeneration leaseToken)) := by
  simp only [RollingWorld.after, RollingMemory.recordFailure]
  split
  · exact ⟨rfl, rfl, rfl, rfl, .inl ⟨rfl, .inr rfl⟩⟩
  · exact .refl w

/-- **What a call does**: it commits a checkpoint or it commits nothing. -/
theorem after_cases (w : RollingWorld) (call : RollingCall) :
    Quiet w (w.after call) ∨
      ∃ c generation leaseToken now,
        call = .commitCheckpoint c generation leaseToken now ∧
        Committed w.memory (w.after call).memory c generation leaseToken now ∧
        (w.after call).commits = w.commits ++ [(generation, c)] := by
  cases call with
  | message sequence => exact .inl ⟨rfl, rfl, rfl, rfl, .inl ⟨rfl, .inl rfl⟩⟩
  | enable => exact .inl (quiet_enable w)
  | enableAll =>
    refine .inl ?_
    simp only [RollingWorld.after, RollingMemory.enableAll]
    split
    · exact quiet_enable w
    · exact .refl w
  | disable => exact .inl ⟨rfl, rfl, rfl, rfl, .inl ⟨rfl, .inr rfl⟩⟩
  | acquireLease leaseToken now leaseExpiresAt => exact .inl (quiet_acquireLease w _ _ _)
  | recordFailure expectedGeneration leaseToken => exact .inl (quiet_recordFailure w _ _)
  | commitCheckpoint c generation leaseToken now =>
    cases h : w.memory.commitCheckpoint c generation leaseToken now with
    | error e =>
      refine .inl ?_
      simp only [RollingWorld.after, h]
      exact .refl w
    | ok memory =>
      refine .inr ⟨c, generation, leaseToken, now, rfl, ?_⟩
      simp only [RollingWorld.after, h]
      exact ⟨committed_of_ok h, trivial⟩

/-! ## The invariant -/

/-- The row begins at zero, or where its parent ends. -/
def Linked (rows : List RollingRoomCheckpoint) (c : RollingRoomCheckpoint) : Prop :=
  c.inputFromSequenceExclusive < c.throughSequence ∧
    match c.parentCheckpointId with
    | none => c.inputFromSequenceExclusive = 0
    | some parentId => ∃ p ∈ rows, p.checkpointId = parentId ∧
        p.throughSequence = c.inputFromSequenceExclusive

theorem Linked.mono {rows rows' : List RollingRoomCheckpoint} (hsub : rows ⊆ rows')
    {c : RollingRoomCheckpoint} (h : Linked rows c) : Linked rows' c := by
  obtain ⟨hproper, hparent⟩ := h
  refine ⟨hproper, ?_⟩
  split at hparent
  · exact hparent
  · obtain ⟨p, hp, hid, hend⟩ := hparent
    exact ⟨p, hsub hp, hid, hend⟩

/-- The state row names a checkpoint no other reaches beyond, or there is none. -/
def NamesGreatest (db : RollingMemory) : Prop :=
  db.checkpoints = [] ∧ db.state.latestCheckpointId = none ∧ db.state.latestThroughSequence = 0 ∨
  ∃ c ∈ db.checkpoints, db.state.latestCheckpointId = some c.checkpointId ∧
    db.state.latestThroughSequence = c.throughSequence ∧
    ∀ other ∈ db.checkpoints, other.throughSequence ≤ c.throughSequence

structure RollingInv (w : RollingWorld) : Prop where
  committed : w.commits.map Prod.snd = w.memory.checkpoints
  once : (w.commits.map Prod.fst).Nodup
  past : ∀ g ∈ w.commits.map Prod.fst, g ≤ w.memory.state.generation
  /-- The generation of a lease in the row has committed nothing. -/
  unspent : w.memory.state.leaseToken ≠ none →
    w.memory.state.generation ∉ w.commits.map Prod.fst
  ids : (w.memory.checkpoints.map (·.checkpointId)).Nodup
  linked : ∀ c ∈ w.memory.checkpoints, Linked w.memory.checkpoints c
  names : NamesGreatest w.memory

theorem rollingInv_init (desired : Nat) :
    RollingInv ⟨RollingMemory.initial.advanceDesired desired, []⟩ where
  committed := rfl
  once := List.nodup_nil
  past := nofun
  unspent := nofun
  ids := List.nodup_nil
  linked := nofun
  names := .inl ⟨rfl, rfl, rfl⟩

theorem RollingInv.quiet (hinv : RollingInv w) (h : Quiet w w') : RollingInv w' where
  committed := by rw [h.commits, h.rows, hinv.committed]
  once := by rw [h.commits]; exact hinv.once
  past := by
    rw [h.commits]
    intro g hg
    have hold := hinv.past g hg
    rcases h.lease with ⟨hsame, -⟩ | hnext <;> omega
  unspent := by
    rw [h.commits]
    intro htoken hg
    rcases h.lease with ⟨hsame, hkept | hcleared⟩ | hnext
    · rw [hkept] at htoken
      rw [hsame] at hg
      exact hinv.unspent htoken hg
    · exact htoken hcleared
    · have hold := hinv.past _ hg
      omega
  ids := by rw [h.rows]; exact hinv.ids
  linked := by rw [h.rows]; exact hinv.linked
  names := by
    have hnames := hinv.names
    unfold NamesGreatest at hnames ⊢
    rwa [h.rows, h.latestId, h.latest]

/-- A committed row is linked: a rebase begins at zero, any other at the end of the latest. -/
theorem Committed.linked {db db' : RollingMemory} {c : RollingRoomCheckpoint}
    {generation leaseToken : Nat} {now : Time}
    (h : Committed db db' c generation leaseToken now)
    (hdrained : c.buildKind = .rebase → c.parentCheckpointId = none) (hnames : NamesGreatest db) :
    Linked db.checkpoints c := by
  refine ⟨h.proper, ?_⟩
  cases hkind : c.buildKind with
  | rebase =>
    rw [hdrained hkind]
    exact h.rebase hkind
  | incremental =>
    obtain ⟨hparent, hfrom⟩ := h.incremental hkind
    rw [hparent, hfrom]
    rcases hnames with ⟨-, hnone, hzero⟩ | ⟨p, hp, hid, hend, -⟩
    · rw [hnone]
      exact hzero
    · rw [hid]
      exact ⟨p, hp, rfl, hend.symm⟩

theorem RollingInv.commit (hinv : RollingInv w) {c : RollingRoomCheckpoint}
    {generation leaseToken : Nat} {now : Time}
    (h : Committed w.memory w'.memory c generation leaseToken now)
    (hcommits : w'.commits = w.commits ++ [(generation, c)])
    (hdrained : c.buildKind = .rebase → c.parentCheckpointId = none) : RollingInv w' := by
  have hsub : w.memory.checkpoints ⊆ w'.memory.checkpoints := by
    rw [h.rows]
    exact List.subset_append_left _ _
  have hunspent : generation ∉ w.commits.map Prod.fst := by
    rw [← h.holds.1]
    exact hinv.unspent (by rw [h.holds.2]; nofun)
  have hstate := h.state
  exact {
    committed := by rw [hcommits, List.map_append, hinv.committed, h.rows]; rfl
    once := by
      rw [hcommits, List.map_append]
      refine List.nodup_append.mpr ⟨hinv.once, List.nodup_singleton _, ?_⟩
      intro a ha b hb hab
      rw [List.map_singleton, List.mem_singleton] at hb
      subst hb hab
      exact hunspent ha
    past := by
      intro g hg
      rw [hcommits, List.map_append, List.mem_append] at hg
      rw [hstate]
      rcases hg with hold | hnew
      · exact hinv.past g hold
      · rw [List.map_singleton, List.mem_singleton] at hnew
        exact (hnew.trans h.holds.1.symm).le
    unspent := fun htoken => absurd (by rw [hstate]) htoken
    ids := by
      rw [h.rows, List.map_append]
      refine List.nodup_append.mpr ⟨hinv.ids, List.nodup_singleton _, ?_⟩
      intro a ha b hb hab
      obtain ⟨other, hother, hid⟩ := List.mem_map.mp ha
      rw [List.map_singleton, List.mem_singleton] at hb
      exact h.fresh other hother (hid.trans (hab.trans hb))
    linked := by
      intro row hrow
      rw [h.rows, List.mem_append] at hrow
      rcases hrow with hold | hnew
      · exact (hinv.linked row hold).mono hsub
      · rw [List.mem_singleton.mp hnew]
        exact (h.linked hdrained hinv.names).mono hsub
    names := by
      refine .inr ⟨c, by rw [h.rows]; simp, by rw [hstate], by rw [hstate], ?_⟩
      intro other hother
      rw [h.rows, List.mem_append] at hother
      rcases hother with hold | hnew
      · -- the row before named a greatest, and the commit does not fall behind it
        have hforward := h.forward
        rcases hinv.names with ⟨hnil, -, -⟩ | ⟨p, -, -, hend, hgreatest⟩
        · rw [hnil] at hold
          cases hold
        · have hbelow := hgreatest other hold
          omega
      · rw [List.mem_singleton.mp hnew] }

theorem rollingInv_step {call : RollingCall} (h : rolling.step call w w') (hinv : RollingInv w) :
    RollingInv w' := by
  obtain ⟨hdrained, rfl⟩ := h
  rcases after_cases w call with hquiet | ⟨c, generation, leaseToken, now, rfl, hcommit, hcommits⟩
  · exact hinv.quiet hquiet
  · exact hinv.commit hcommit hcommits hdrained

theorem rollingInv_reachable (h : rolling.Reachable w) : RollingInv w := by
  refine System.invariant RollingInv ?_ (fun call s s' => rollingInv_step) h
  rintro s ⟨desired, rfl⟩
  exact rollingInv_init desired

end Calls

/-! ## Chains -/

/-- `chain` is `c` and what following its parents finds, newest first. -/
inductive Lineage (rows : List RollingRoomCheckpoint) :
    RollingRoomCheckpoint → List RollingRoomCheckpoint → Prop where
  | root {c} (start : c.parentCheckpointId = none) : Lineage rows c [c]
  | next {c p chain} (row : p ∈ rows) (link : c.parentCheckpointId = some p.checkpointId)
      (rest : Lineage rows p chain) : Lineage rows c (c :: chain)

/-- The sequences a checkpoint summarises itself. -/
def RollingRoomCheckpoint.interval (c : RollingRoomCheckpoint) : List Nat :=
  List.range' (c.inputFromSequenceExclusive + 1) (c.throughSequence - c.inputFromSequenceExclusive)

/-- Each range begins where the one before it ends, and the first begins at zero. -/
def Joined (chain : List RollingRoomCheckpoint) : Prop :=
  chain.IsChain (fun child parent =>
    child.inputFromSequenceExclusive = parent.throughSequence) ∧
  chain.getLast?.map (·.inputFromSequenceExclusive) = some 0

section Chains

variable {rows : List RollingRoomCheckpoint} {c : RollingRoomCheckpoint}
  {chain other : List RollingRoomCheckpoint}

theorem Lineage.head (h : Lineage rows c chain) : ∃ rest, chain = c :: rest := by
  cases h with
  | root start => exact ⟨[], rfl⟩
  | next row link rest => exact ⟨_, rfl⟩

theorem lineage_exists (hlinked : ∀ c ∈ rows, Linked rows c) (hc : c ∈ rows) :
    ∃ chain, Lineage rows c chain := by
  induction hn : c.throughSequence using Nat.strong_induction_on generalizing c with
  | _ n ih =>
    obtain ⟨hproper, hparent⟩ := hlinked c hc
    cases hid : c.parentCheckpointId with
    | none => exact ⟨[c], .root hid⟩
    | some parentId =>
      simp only [hid] at hparent
      obtain ⟨p, hp, rfl, hend⟩ := hparent
      obtain ⟨rest, hrest⟩ := ih p.throughSequence (by omega) hp rfl
      exact ⟨c :: rest, .next hp hid hrest⟩

theorem Lineage.unique (hids : (rows.map (·.checkpointId)).Nodup) (h : Lineage rows c chain)
    (h' : Lineage rows c other) : chain = other := by
  induction h generalizing other with
  | root start =>
    cases h' with
    | root => rfl
    | next row link rest => rw [start] at link; cases link
  | next row link rest ih =>
    cases h' with
    | root start => rw [start] at link; cases link
    | next row' link' rest' =>
      have hid := Option.mem_unique link link'
      obtain rfl := List.inj_on_of_nodup_map hids row row' hid
      rw [ih rest']

theorem Lineage.linked_head (hids : (rows.map (·.checkpointId)).Nodup) {p : RollingRoomCheckpoint}
    (hlinked : Linked rows c) (hp : p ∈ rows) (hlink : c.parentCheckpointId = some p.checkpointId) :
    c.inputFromSequenceExclusive = p.throughSequence := by
  obtain ⟨-, hparent⟩ := hlinked
  simp only [hlink] at hparent
  obtain ⟨q, hq, hid, hend⟩ := hparent
  obtain rfl := List.inj_on_of_nodup_map hids hq hp hid
  exact hend.symm

theorem Lineage.joined (hids : (rows.map (·.checkpointId)).Nodup)
    (hlinked : ∀ c ∈ rows, Linked rows c) (hc : c ∈ rows) (h : Lineage rows c chain) :
    Joined chain := by
  induction h with
  | root start =>
    obtain ⟨-, hparent⟩ := hlinked _ hc
    simp only [start] at hparent
    exact ⟨.singleton _, by rw [List.getLast?_singleton, Option.map_some, hparent]⟩
  | next row link rest ih =>
    obtain ⟨hchain, hlast⟩ := ih row
    obtain ⟨tail, rfl⟩ := rest.head
    refine ⟨.cons_cons (Lineage.linked_head hids (hlinked _ hc) row link) hchain, ?_⟩
    rw [List.getLast?_cons_cons]
    exact hlast

/-- **The ranges of a chain, oldest first, are the sequences from 1 to its end.** -/
theorem Lineage.covers (hids : (rows.map (·.checkpointId)).Nodup)
    (hlinked : ∀ c ∈ rows, Linked rows c) (hc : c ∈ rows) (h : Lineage rows c chain) :
    chain.reverse.flatMap (·.interval) = List.range' 1 c.throughSequence := by
  induction h with
  | root start =>
    obtain ⟨-, hparent⟩ := hlinked _ hc
    simp only [start] at hparent
    simp [RollingRoomCheckpoint.interval, hparent]
  | @next c p chain row link rest ih =>
    obtain ⟨hproper, -⟩ := hlinked _ hc
    have hjoin := Lineage.linked_head hids (hlinked _ hc) row link
    calc (c :: chain).reverse.flatMap (·.interval)
        = chain.reverse.flatMap (·.interval) ++ c.interval := by
          rw [List.reverse_cons, List.flatMap_append, List.flatMap_singleton]
      _ = List.range' 1 p.throughSequence ++
            List.range' (1 + p.throughSequence) (c.throughSequence - p.throughSequence) := by
          rw [ih row, RollingRoomCheckpoint.interval, hjoin, Nat.add_comm 1]
      _ = List.range' 1 c.throughSequence := by
          rw [List.range'_append_1]
          congr 1
          omega

end Chains

/-! ## Stale workers -/

section Stale

variable {w w' : RollingWorld}

/-- The calls of a worker with this lease. -/
inductive CallOf (generation leaseToken : Nat) : RollingCall → Prop where
  | commit (c : RollingRoomCheckpoint) (now : Time) :
      CallOf generation leaseToken (.commitCheckpoint c generation leaseToken now)
  | failure : CallOf generation leaseToken (.recordFailure generation leaseToken)

variable {generation leaseToken : Nat}

theorem commit_refused {c : RollingRoomCheckpoint} {now : Time}
    (h : ¬(w.memory.state.Holds generation leaseToken ∧
      w.memory.state.leaseExpiresAt.any (now < ·) = true)) :
    w.after (.commitCheckpoint c generation leaseToken now) = w := by
  cases hc : w.memory.commitCheckpoint c generation leaseToken now with
  | error e => simp only [RollingWorld.after, hc]
  | ok memory =>
    have hcommitted := committed_of_ok hc
    exact absurd ⟨hcommitted.holds, hcommitted.inForce⟩ h

theorem lost_changes_nothing (h : ¬w.memory.state.Holds generation leaseToken) {call : RollingCall}
    (hcall : CallOf generation leaseToken call) : w.after call = w := by
  cases hcall with
  | commit c now => exact commit_refused fun hlive => h hlive.1
  | failure =>
    have hsame : w.memory.recordFailure generation leaseToken = w.memory := if_neg h
    simp only [RollingWorld.after, hsame]

/-- Generations only grow, and one whose lease is gone gets no lease again. -/
structure Passed (w w' : RollingWorld) : Prop where
  latest : w.memory.state.latestThroughSequence ≤ w'.memory.state.latestThroughSequence
  generation : w.memory.state.generation ≤ w'.memory.state.generation
  token : w'.memory.state.generation = w.memory.state.generation →
    w'.memory.state.leaseToken = w.memory.state.leaseToken ∨ w'.memory.state.leaseToken = none

theorem Passed.trans {a b c : RollingWorld} (hab : Passed a b) (hbc : Passed b c) :
    Passed a c where
  latest := hab.latest.trans hbc.latest
  generation := hab.generation.trans hbc.generation
  token := by
    intro hsame
    have h1 := hab.generation
    have h2 := hbc.generation
    rcases hbc.token (by omega) with hkept | hnone
    · rw [hkept]
      exact hab.token (by omega)
    · exact .inr hnone

theorem passed_step {call : RollingCall} (h : rolling.step call w w') : Passed w w' := by
  obtain ⟨-, rfl⟩ := h
  rcases after_cases w call with hquiet | ⟨c, generation, leaseToken, now, -, hcommit, -⟩
  · refine ⟨hquiet.latest.ge, ?_, fun hsame => ?_⟩
    · rcases hquiet.lease with ⟨hkept, -⟩ | hnext <;> omega
    · rcases hquiet.lease with ⟨-, htoken⟩ | hnext
      · exact htoken
      · omega
  · have hstate := hcommit.state
    refine ⟨?_, by rw [hstate], fun _ => .inr (by rw [hstate])⟩
    rw [hstate]
    exact hcommit.forward

theorem passed_along (hreach : rolling.Reachable w) (h : rolling.Steps w w') : Passed w w' :=
  System.along_run (R := Passed) (fun _ => ⟨le_rfl, le_rfl, fun _ => .inl rfl⟩)
    (fun _ _ _ => Passed.trans) (fun _ _ _ _ => passed_step) hreach h

theorem lost_along (hreach : rolling.Reachable w) (hgiven : generation ≤ w.memory.state.generation)
    (hlost : ¬w.memory.state.Holds generation leaseToken) (h : rolling.Steps w w') :
    ¬w'.memory.state.Holds generation leaseToken := by
  rintro ⟨hgeneration, htoken⟩
  have hpassed := passed_along hreach h
  have hsame : w'.memory.state.generation = w.memory.state.generation := by
    have hgrown := hpassed.generation
    omega
  rcases hpassed.token hsame with hkept | hnone
  · exact hlost ⟨hsame.symm.trans hgeneration, hkept.symm.trans htoken⟩
  · rw [hnone] at htoken
    cases htoken

end Stale

/-! ## The law -/

/-- **The law of rolling memory.** -/
structure RollingLaw (w : RollingWorld) : Prop where
  forward : ∀ w', rolling.Steps w w' →
    w.memory.state.latestThroughSequence ≤ w'.memory.state.latestThroughSequence
  /-- The rows are the commits, each of a generation of its own. -/
  committed : w.commits.map Prod.snd = w.memory.checkpoints
  onePerGeneration : (w.commits.map Prod.fst).Nodup
  /-- There is one way to follow the parents of a checkpoint, it comes to an end, and its ranges
  join and are the sequences from 1 to the checkpoint's end. -/
  chains : ∀ c ∈ w.memory.checkpoints,
    (∃! chain, Lineage w.memory.checkpoints c chain) ∧
    ∀ chain, Lineage w.memory.checkpoints c chain →
      Joined chain ∧ chain.reverse.flatMap (·.interval) = List.range' 1 c.throughSequence
  /-- Where two checkpoints reach furthest, the row names one of them. -/
  names : NamesGreatest w.memory
  /-- A worker whose lease was lost or replaced changes nothing from then on. -/
  lost : ∀ generation leaseToken, generation ≤ w.memory.state.generation →
    ¬w.memory.state.Holds generation leaseToken →
    ∀ w', rolling.Steps w w' → ∀ call, CallOf generation leaseToken call → w'.after call = w'
  /-- A worker whose lease has expired commits nothing. -/
  expired : ∀ c generation leaseToken now,
    w.memory.state.leaseExpiresAt.any (now < ·) = false →
    w.after (.commitCheckpoint c generation leaseToken now) = w
  /-- What its failure changes is the mode and the lease it still held. -/
  failure : ∀ generation leaseToken,
    w.after (.recordFailure generation leaseToken) = w ∨
    w.memory.state.Holds generation leaseToken ∧
      w.after (.recordFailure generation leaseToken) = { w with
        memory := { w.memory with
          state := { w.memory.state with
            mode := .degraded, leaseToken := none, leaseExpiresAt := none } } }

/-- **Rolling memory keeps its law.** -/
theorem rolling_law {w : RollingWorld} (h : rolling.Reachable w) : RollingLaw w := by
  have hinv := rollingInv_reachable h
  exact {
    forward := fun w' hsteps => (passed_along h hsteps).latest
    committed := hinv.committed
    onePerGeneration := hinv.once
    chains := by
      intro c hc
      obtain ⟨chain, hchain⟩ := lineage_exists hinv.linked hc
      refine ⟨⟨chain, hchain, fun other hother => hother.unique hinv.ids hchain⟩, ?_⟩
      intro other hother
      exact ⟨hother.joined hinv.ids hinv.linked hc, hother.covers hinv.ids hinv.linked hc⟩
    names := hinv.names
    lost := fun generation leaseToken hgiven hlost w' hsteps call hcall =>
      lost_changes_nothing (lost_along h hgiven hlost hsteps) hcall
    expired := fun c generation leaseToken now hexpired =>
      commit_refused fun hlive => by rw [hexpired] at hlive; cases hlive.2
    failure := by
      intro generation leaseToken
      by_cases hholds : w.memory.state.Holds generation leaseToken
      · refine .inr ⟨hholds, ?_⟩
        have hfailed : w.memory.recordFailure generation leaseToken = _ := if_pos hholds
        simp only [RollingWorld.after, hfailed]
      · exact .inl (lost_changes_nothing hholds .failure) }

namespace RollingSample

/-- A worker's checkpoint of the first message. -/
def checkpoint : RollingRoomCheckpoint where
  checkpointId := 5
  parentCheckpointId := none
  inputFromSequenceExclusive := 0
  throughSequence := 1
  summary := "s"
  provenance := []
  sourceMessageCount := 1
  sourceDigest := "0000000000000000000000000000000000000000000000000000000000000000"
  promptVersion := 1
  modelFingerprint := "m"
  buildKind := .incremental
  createdAt := 3

/-- A worker has the lease 7 of the first generation, until time 10. -/
def leased : RollingWorld where
  memory :=
    { checkpoints := []
      state :=
        { mode := .backfilling, latestCheckpointId := none, latestThroughSequence := 0
          desiredThroughSequence := 1, generation := 1, leaseToken := some 7
          leaseExpiresAt := some 10 } }
  commits := []

theorem leased_reachable : rolling.Reachable leased := by
  have h0 : rolling.Reachable ⟨RollingMemory.initial.advanceDesired 0, []⟩ :=
    System.reachable_init ⟨0, rfl⟩
  have h1 := System.reachable_step h0 (i := RollingCall.message 1) ⟨trivial, rfl⟩
  have h2 := System.reachable_step h1 (i := RollingCall.enable) ⟨trivial, rfl⟩
  exact System.reachable_step h2 (i := RollingCall.acquireLease 7 0 10) ⟨trivial, rfl⟩

/-- The worker committed in time. -/
def committed : RollingWorld where
  memory :=
    { checkpoints := [checkpoint]
      state := { leased.memory.state with
        mode := .ready, latestCheckpointId := some 5, latestThroughSequence := 1
        leaseToken := none, leaseExpiresAt := none } }
  commits := [(1, checkpoint)]

theorem checkpoint_accepted :
    leased.memory.commitCheckpoint checkpoint 1 7 5 = .ok committed.memory := by
  have hrow : leased.memory.rowAccepted checkpoint = true := by decide +kernel
  have hdigest : RollingMemory.digestPattern checkpoint.sourceDigest = true := by decide +kernel
  simp only [RollingMemory.commitCheckpoint, RollingMemory.insertCheckpoint, hrow, hdigest]
  rfl

theorem committed_reachable : rolling.Reachable committed := by
  refine System.reachable_step leased_reachable
    (i := RollingCall.commitCheckpoint checkpoint 1 7 5) ⟨nofun, ?_⟩
  simp only [RollingWorld.after, checkpoint_accepted]
  rfl

end RollingSample

/-- The law, where one checkpoint is committed. -/
theorem rolling_law_committed :
    RollingLaw RollingSample.committed ∧
      RollingSample.committed.memory.checkpoints = [RollingSample.checkpoint] :=
  ⟨rolling_law RollingSample.committed_reachable, rfl⟩

/-- A worker whose lease has expired still changes the row: its commit is refused, and the failure
it then records degrades the Room. -/
theorem expired_worker_degrades :
    ∃ w, rolling.Reachable w ∧ w.memory.state.Holds 1 7 ∧
      w.memory.state.leaseExpiresAt.any (20 < ·) = false ∧
      (∀ c, w.after (.commitCheckpoint c 1 7 20) = w) ∧
      w.after (.recordFailure 1 7) ≠ w := by
  refine ⟨RollingSample.leased, RollingSample.leased_reachable, ⟨rfl, rfl⟩, rfl,
    fun c => commit_refused fun hlive => ?_, fun hsame => ?_⟩
  · cases hlive.2
  · have hmode := congrArg (·.memory.state.mode) hsame
    cases hmode

/-! ## The scheduler's calls -/

end AgentRoom.Context
