import AgentRoom.Run.Delivery

/-!
# The receipts of a delivery

What `validateArtifactMaterializations` and `validateRoomContextConsumption` accept. The receipts
of Artifacts are matched one by one against what is left of the pinned ones, so what is accepted is
a permutation of them. A consumption is determined by the base cursor of the session: for each
there is one interval of the frozen bundle.
-/

namespace AgentRoom.DeliveryService

/-! ## Artifacts -/

/-- The receipt is of the Artifact, and says what is pinned of it. -/
def Receives (receipt : Json) (pinned : String × ArtifactContent) : Prop :=
  (receipt.strField "artifactId").getD "" = pinned.1 ∧ receiptMatches receipt pinned.2 = true

/-- **The receipts are the pinned Artifacts, in some order**: each once, and no other. -/
def Materialized (receipts : List Json) (expected : List (String × ArtifactContent)) : Prop :=
  ∃ order, order.Perm expected ∧ List.Forall₂ Receives receipts order

/-- What is left to receive, as a list. -/
def Lists (remaining : Table String ArtifactContent) (order : List (String × ArtifactContent)) :
    Prop :=
  (order.map Prod.fst).Nodup ∧ ∀ a c, remaining.get a = some c ↔ (a, c) ∈ order

variable {remaining : Table String ArtifactContent}

theorem lists_nil :
    Lists remaining [] ↔ remaining.rows.isEmpty = true := by
  unfold Lists
  constructor
  · rintro ⟨-, hget⟩
    refine List.isEmpty_iff.mpr (List.eq_nil_iff_forall_not_mem.mpr fun c hc => ?_)
    obtain ⟨a, ha⟩ := Table.mem_rows.mp hc
    exact List.not_mem_nil ((hget a c).mp ha)
  · intro hempty
    refine ⟨List.nodup_nil, fun a c => ⟨fun ha => ?_, fun h => absurd h List.not_mem_nil⟩⟩
    have hrow := Table.mem_rows.mpr ⟨a, ha⟩
    rw [List.isEmpty_iff.mp hempty] at hrow
    exact absurd hrow List.not_mem_nil

variable {a : String} {c : ArtifactContent} {order : List (String × ArtifactContent)}

theorem lists_cons :
    Lists remaining ((a, c) :: order) ↔
      remaining.get a = some c ∧ Lists (remaining.remove a) order := by
  constructor
  · rintro ⟨hnodup, hget⟩
    obtain ⟨hnew, hnodup⟩ := List.nodup_cons.mp hnodup
    refine ⟨(hget a c).mpr List.mem_cons_self, hnodup, fun a' c' => ?_⟩
    by_cases heq : a' = a
    · subst heq
      rw [Table.get_remove_self]
      refine ⟨nofun, fun h => absurd (List.mem_map.mpr ⟨_, h, rfl⟩) hnew⟩
    · rw [Table.get_remove_ne _ heq, hget, List.mem_cons]
      exact or_iff_right fun h => heq (congrArg Prod.fst h)
  · rintro ⟨hc, hnodup, hget⟩
    have hfresh : ∀ p ∈ order, p.1 ≠ a := by
      rintro ⟨a', c'⟩ hp rfl
      have hnone := (hget a' c').mpr hp
      rw [Table.get_remove_self] at hnone
      cases hnone
    refine ⟨List.nodup_cons.mpr ⟨fun h => ?_, hnodup⟩, fun a' c' => ?_⟩
    · obtain ⟨p, hp, hpa⟩ := List.mem_map.mp h
      exact hfresh p hp hpa
    · rw [List.mem_cons]
      by_cases heq : a' = a
      · subst heq
        rw [hc]
        constructor
        · rintro h
          exact .inl (by rw [Option.some.inj h])
        · rintro (h | h)
          · rw [(Prod.mk.inj h).2]
          · exact absurd rfl (hfresh _ h)
      · rw [← hget, Table.get_remove_ne _ heq]
        exact (or_iff_right fun h => heq (congrArg Prod.fst h)).symm

/-- **Consuming the receipts one by one** leaves nothing exactly when they are, in their order, a
list of what there is to receive. -/
theorem receiptsConsume_iff (receipts : List Json) (remaining : Table String ArtifactContent) :
    receiptsConsume remaining receipts = true ↔
      ∃ order, Lists remaining order ∧ List.Forall₂ Receives receipts order := by
  induction receipts generalizing remaining with
  | nil => simp [receiptsConsume, lists_nil]
  | cons receipt rest ih =>
    have hstep : receiptsConsume remaining (receipt :: rest) = true ↔
        ∃ pinned, remaining.get ((receipt.strField "artifactId").getD "") = some pinned ∧
          receiptMatches receipt pinned = true ∧
          receiptsConsume (remaining.remove ((receipt.strField "artifactId").getD "")) rest =
            true := by
      rw [receiptsConsume]
      split
      · next hnone => simp [hnone]
      · next pinned hsome => simp [hsome]
    rw [hstep]
    constructor
    · rintro ⟨pinned, hget, hmatches, hrest⟩
      obtain ⟨order, hlists, hreceives⟩ := (ih _).mp hrest
      exact ⟨(_, pinned) :: order, lists_cons.mpr ⟨hget, hlists⟩,
        .cons ⟨rfl, hmatches⟩ hreceives⟩
    · rintro ⟨_ | ⟨⟨a, pinned⟩, order⟩, hlists, hreceives⟩
      · cases hreceives
      · obtain ⟨⟨rfl, hmatches⟩, hrest⟩ := List.forall₂_cons.mp hreceives
        obtain ⟨hget, hlists⟩ := lists_cons.mp hlists
        exact ⟨pinned, hget, hmatches, (ih _).mpr ⟨order, hlists, hrest⟩⟩

/-- The pinned Artifacts, keyed. -/
def pinnedTable (expected : List (String × ArtifactContent)) : Table String ArtifactContent :=
  expected.foldl (fun t (artifactId, content) => t.put artifactId content) .empty

theorem get_pinnedTable (expected : List (String × ArtifactContent))
    (t : Table String ArtifactContent)
    (h : (expected.foldl (fun t (artifactId, content) => t.put artifactId content) t).get a =
      some c) : (a, c) ∈ expected ∨ t.get a = some c := by
  induction expected generalizing t with
  | nil => exact .inr h
  | cons p rest ih =>
    obtain hin | hput := ih _ h
    · exact .inl (List.mem_cons_of_mem _ hin)
    · rw [Table.get_put] at hput
      split at hput
      · next heq =>
          subst heq
          exact .inl (List.mem_cons.mpr (.inl (by rw [← Option.some.inj hput])))
      · exact .inr hput

theorem get_of_mem_pinned (expected : List (String × ArtifactContent))
    (hnodup : (expected.map Prod.fst).Nodup) (t : Table String ArtifactContent)
    (h : (a, c) ∈ expected ∨ (a ∉ expected.map Prod.fst ∧ t.get a = some c)) :
    (expected.foldl (fun t (artifactId, content) => t.put artifactId content) t).get a =
      some c := by
  induction expected generalizing t with
  | nil => exact (h.resolve_left List.not_mem_nil).2
  | cons p rest ih =>
    obtain ⟨hnew, hnodup⟩ := List.nodup_cons.mp hnodup
    refine ih hnodup _ ?_
    obtain hin | ⟨hnot, hget⟩ := h
    · obtain rfl | hin := List.mem_cons.mp hin
      · exact .inr ⟨hnew, Table.get_put_self _ _ _⟩
      · exact .inl hin
    · rw [List.map_cons, List.mem_cons, not_or] at hnot
      exact .inr ⟨hnot.2, by rw [Table.get_put_ne _ _ hnot.1, hget]⟩

variable {expected : List (String × ArtifactContent)}

theorem lists_pinnedTable (hnodup : (expected.map Prod.fst).Nodup) :
    Lists (pinnedTable expected) expected := by
  refine ⟨hnodup, fun a c => ⟨fun h => ?_, fun h => get_of_mem_pinned _ hnodup _ (.inl h)⟩⟩
  exact (get_pinnedTable _ _ h).resolve_right fun h => by simp at h

theorem Lists.perm {order' : List (String × ArtifactContent)} (h : Lists remaining order)
    (h' : Lists remaining order') : order.Perm order' := by
  refine (List.perm_ext_iff_of_nodup h.1.of_map h'.1.of_map).mpr ?_
  rintro ⟨a, c⟩
  rw [← h.2, ← h'.2]

/-- **The receipts of as many Artifacts as are pinned are accepted exactly when the Artifacts are
distinct and the receipts are a permutation of them.** -/
theorem receiptsConsume_pinned {receipts : List Json} :
    (receipts.length = expected.length ∧
        receiptsConsume (pinnedTable expected) receipts = true) ↔
      (expected.map Prod.fst).Nodup ∧ Materialized receipts expected := by
  rw [receiptsConsume_iff]
  constructor
  · rintro ⟨hlength, order, hlists, hreceives⟩
    have hsub : order.map Prod.fst ⊆ expected.map Prod.fst := by
      refine List.map_subset _ ?_
      rintro ⟨a, c⟩ hin
      exact (get_pinnedTable _ _ ((hlists.2 a c).mpr hin)).resolve_right fun h => by simp at h
    have hperm : (order.map Prod.fst).Perm (expected.map Prod.fst) := by
      refine (List.subperm_of_subset hlists.1 hsub).perm_of_length_le ?_
      rw [List.length_map, List.length_map, ← hlength, hreceives.length_eq]
    have hnodup := hperm.nodup_iff.mp hlists.1
    exact ⟨hnodup, order, hlists.perm (lists_pinnedTable hnodup), hreceives⟩
  · rintro ⟨hnodup, order, hperm, hreceives⟩
    refine ⟨by rw [hreceives.length_eq, hperm.length_eq], order, ?_, hreceives⟩
    obtain ⟨-, hget⟩ := lists_pinnedTable hnodup
    refine ⟨(hperm.map _).nodup_iff.mpr hnodup, fun a c => ?_⟩
    rw [hget, hperm.mem_iff]

/-- The one failure that a Bridge may report in place of receipts. -/
structure Unverified (failure : Json) : Prop where
  object : failure.isObject = true
  code : failure.strField "code" = some "ARTIFACT_MATERIALIZATION_FAILED"
  retryable : failure.boolField "retryable" = some false
  message : failure.strField "message" =
    some "Pinned Artifact content could not be verified in isolated staging."

theorem asArr_eq_some {v : Json} {items : List Json} : v.asArr = some items ↔ v = .arr items := by
  cases v <;> simp [Json.asArr]

theorem refused_else {c : Prop} [Decidable c] {e : Err} {rest : Except Err Unit} :
    (if c then throw e else rest) = .ok () ↔ ¬ c ∧ rest = .ok () := by
  split
  · next hc => exact iff_of_false nofun fun h => h.1 hc
  · next hc => exact (and_iff_right hc).symm

variable {delivery : DeliveryRecord} {materializations : Option Json}

theorem validate_failure {failure : Json} :
    validateArtifactMaterializations delivery materializations (some failure) = .ok () ↔
      expectedMaterializations delivery ≠ [] ∧ Unverified failure ∧
        (materializations = none ∨ materializations = some (.arr [])) := by
  have hempty (receipts : Json) :
      receipts.asArr.any (·.isEmpty) = true ↔ receipts = .arr [] := by
    simp [Option.any_eq_true, asArr_eq_some]
  unfold validateArtifactMaterializations
  dsimp only
  refine refused_else.trans ((and_iff_left rfl).trans ?_)
  simp only [Bool.or_eq_true, Bool.not_eq_true', ← Bool.not_eq_true, decide_eq_true_eq, not_or,
    not_not, List.isEmpty_iff]
  constructor
  · rintro ⟨⟨⟨⟨⟨hpinned, hobject⟩, hcode⟩, hretryable⟩, hmessage⟩, hnone⟩
    refine ⟨hpinned, ⟨hobject, hcode, hretryable, hmessage⟩, ?_⟩
    cases materializations with
    | none => exact .inl rfl
    | some receipts => exact .inr (congrArg some ((hempty receipts).mp hnone))
  · rintro ⟨hpinned, hfailure, hnone⟩
    refine ⟨⟨⟨⟨⟨hpinned, hfailure.object⟩, hfailure.code⟩, hfailure.retryable⟩, hfailure.message⟩,
      ?_⟩
    rcases hnone with rfl | rfl
    · rfl
    · rfl

theorem validate_receipts :
    validateArtifactMaterializations delivery materializations none = .ok () ↔
      (materializations = none ∧ expectedMaterializations delivery = []) ∨
      ∃ receipts, materializations = some (.arr receipts) ∧
        ((expectedMaterializations delivery).map Prod.fst).Nodup ∧
        Materialized receipts (expectedMaterializations delivery) := by
  unfold validateArtifactMaterializations
  dsimp only
  cases h : materializations.bind Json.asArr with
  | none =>
    have hnot : ¬ ∃ receipts, materializations = some (.arr receipts) ∧
        ((expectedMaterializations delivery).map Prod.fst).Nodup ∧
        Materialized receipts (expectedMaterializations delivery) := by
      rintro ⟨receipts, rfl, -⟩
      cases h
    rw [or_iff_left hnot]
    dsimp only
    split
    · next hnone =>
        simp only [Bool.and_eq_true, List.isEmpty_iff, Option.isNone_iff_eq_none] at hnone
        exact iff_of_true rfl hnone.symm
    · next hsome =>
        refine iff_of_false nofun fun ⟨hnone, hempty⟩ => hsome ?_
        rw [hnone, hempty]
        rfl
  | some receipts =>
    obtain ⟨v, rfl, hv⟩ := Option.bind_eq_some_iff.mp h
    obtain rfl := asArr_eq_some.mp hv
    dsimp only
    have hiff : (receipts.length = (expectedMaterializations delivery).length ∧ _) ↔ _ :=
      receiptsConsume_pinned
    split
    · next hgood =>
        simp only [Bool.and_eq_true, decide_eq_true_eq] at hgood
        exact iff_of_true rfl (.inr ⟨receipts, rfl, hiff.mp hgood⟩)
    · next hbad =>
        refine iff_of_false nofun ?_
        rintro (⟨hnone, -⟩ | ⟨receipts', hreceipts, haccepted⟩)
        · cases hnone
        · obtain rfl : receipts = receipts' := by simpa using hreceipts
          unfold pinnedTable at hiff
          exact hbad (by simpa using hiff.mpr haccepted)

/-! ## Room context -/

/-- What a Bridge reports of its consumption. A number is `none` where it is not finite. -/
structure ReportedConsumption where
  baseContextCursor : Option ℚ
  checkpointId : Option Nat
  rawFromSequenceExclusive : Option ℚ
  rawThroughSequenceInclusive : Option ℚ
  rawMessageCount : Option ℚ
  coverageThroughSequence : Option ℚ

/-- `Number.isSafeInteger(value) && value >= 0`: the number. -/
def safeCursor (value : Option ℚ) : Option Nat :=
  value.bind fun q =>
    if q.den = 1 ∧ 0 ≤ q.num ∧ isSafeInteger q.num.toNat then some q.num.toNat else none

/-- The cursor and the receipt, when all their numbers are cursors. -/
def readConsumption (contextCursor : Option ℚ) (receipt : ReportedConsumption) :
    Option (Nat × RoomContextConsumption) := do
  let cursor ← safeCursor contextCursor
  let baseContextCursor ← safeCursor receipt.baseContextCursor
  let rawFromSequenceExclusive ← safeCursor receipt.rawFromSequenceExclusive
  let rawThroughSequenceInclusive ← safeCursor receipt.rawThroughSequenceInclusive
  let rawMessageCount ← safeCursor receipt.rawMessageCount
  let coverageThroughSequence ← safeCursor receipt.coverageThroughSequence
  some (cursor,
    { baseContextCursor, checkpointId := receipt.checkpointId, rawFromSequenceExclusive,
      rawThroughSequenceInclusive, rawMessageCount, coverageThroughSequence })

/-- `validateRoomContextConsumption`, on numbers as they are reported. -/
def validateReportedConsumption (db : Central) (runId : RunId) (disposition : SessionDisposition)
    (contextCursor : Option ℚ) (receipt : ReportedConsumption) : Except Err Unit :=
  match (db.deliveries.get runId).bind (·.payload.roomContextBundle), db.runs.get runId with
  | some _, some _ =>
    match readConsumption contextCursor receipt with
    | none => throw "Room context consumption cursors are invalid"
    | some (contextCursor, receipt) =>
      validateRoomContextConsumption db runId disposition contextCursor receipt
  | _, _ => throw "Run was not delivered with Room context coverage"

/-- A number that is a cursor. -/
def cursor (n : Nat) : Option ℚ := some (n : ℚ)

def reported (receipt : RoomContextConsumption) : ReportedConsumption where
  baseContextCursor := cursor receipt.baseContextCursor
  checkpointId := receipt.checkpointId
  rawFromSequenceExclusive := cursor receipt.rawFromSequenceExclusive
  rawThroughSequenceInclusive := cursor receipt.rawThroughSequenceInclusive
  rawMessageCount := cursor receipt.rawMessageCount
  coverageThroughSequence := cursor receipt.coverageThroughSequence

variable {n : Nat}

theorem safeCursor_eq_some {value : Option ℚ} :
    safeCursor value = some n ↔ value = cursor n ∧ isSafeInteger n = true := by
  unfold safeCursor cursor
  cases value with
  | none => simp
  | some q =>
    simp only [Option.bind_some, Option.ite_none_right_eq_some, Option.some.injEq]
    constructor
    · rintro ⟨⟨hden, hnum, hsafe⟩, rfl⟩
      refine ⟨?_, hsafe⟩
      have hcast : ((q.num.toNat : Int) : ℚ) = q := by
        rw [Int.toNat_of_nonneg hnum]
        exact Rat.coe_int_num_of_den_eq_one hden
      exact_mod_cast hcast.symm
    · rintro ⟨rfl, hsafe⟩
      simpa using hsafe

variable {contextCursor : Option ℚ} {receipt : ReportedConsumption}
  {consumption : RoomContextConsumption}

theorem readConsumption_eq_some :
    readConsumption contextCursor receipt = some (n, consumption) ↔
      contextCursor = cursor n ∧ receipt = reported consumption ∧
        ∀ m ∈ [n, consumption.baseContextCursor, consumption.rawFromSequenceExclusive,
          consumption.rawThroughSequenceInclusive, consumption.rawMessageCount,
          consumption.coverageThroughSequence], isSafeInteger m = true := by
  unfold readConsumption
  simp only [Option.bind_eq_bind, Option.bind_eq_some_iff, safeCursor_eq_some, Option.some.injEq,
    Prod.mk.injEq, List.forall_mem_cons]
  constructor
  · rintro ⟨_, ⟨hcursor, hn⟩, _, ⟨hbase, h₁⟩, _, ⟨hfrom, h₂⟩, _, ⟨hthrough, h₃⟩, _,
      ⟨hcount, h₄⟩, _, ⟨hcoverage, h₅⟩, rfl, rfl⟩
    refine ⟨hcursor, ?_, hn, h₁, h₂, h₃, h₄, h₅, by simp⟩
    unfold reported
    dsimp only
    rw [← hbase, ← hfrom, ← hthrough, ← hcount, ← hcoverage]
  · rintro ⟨hcursor, rfl, hn, h₁, h₂, h₃, h₄, h₅, -⟩
    exact ⟨n, ⟨hcursor, hn⟩, _, ⟨rfl, h₁⟩, _, ⟨rfl, h₂⟩, _, ⟨rfl, h₃⟩, _, ⟨rfl, h₄⟩, _,
      ⟨rfl, h₅⟩, rfl, rfl⟩

/-- The checkpoint that a session at a base cursor takes. -/
def consumedCheckpoint (bundle : RoomContextBundle) (disposition : SessionDisposition)
    (base : Nat) : Option RoomContextCheckpoint :=
  bundle.checkpoint.filter fun checkpoint =>
    disposition ≠ .resumed ∨ base < checkpoint.throughSequence

/-- **The interval of the bundle** that a session at a base cursor consumes: the checkpoint, when
it is ahead, and the messages after it and after the base. -/
def intervalAt (bundle : RoomContextBundle) (disposition : SessionDisposition) (base : Nat) :
    RoomContextConsumption :=
  let rawFrom :=
    if (consumedCheckpoint bundle disposition base).isSome then bundle.rawTail.fromSequenceExclusive
    else min (max base bundle.rawTail.fromSequenceExclusive) bundle.rawTail.throughSequenceInclusive
  { baseContextCursor := base
    checkpointId := (consumedCheckpoint bundle disposition base).map (·.checkpointId)
    rawFromSequenceExclusive := rawFrom
    rawThroughSequenceInclusive := bundle.rawTail.throughSequenceInclusive
    rawMessageCount := bundle.rawTail.throughSequenceInclusive - rawFrom
    coverageThroughSequence := max base bundle.targetThroughSequence }

/-- What the server asks of an interval, beside that it is one of the bundle. -/
structure Admissible (latest : Nat) (disposition : SessionDisposition)
    (interval : RoomContextConsumption) : Prop where
  fresh : disposition ≠ .resumed → interval.baseContextCursor = 0
  forward : interval.rawFromSequenceExclusive ≤ interval.rawThroughSequenceInclusive
  few : interval.rawMessageCount ≤ 12
  written : interval.coverageThroughSequence ≤ latest
  safe : isSafeInteger interval.coverageThroughSequence = true ∧
    isSafeInteger interval.rawThroughSequenceInclusive = true

theorem isSafeInteger_mono {m : Nat} (h : isSafeInteger n = true) (hle : m ≤ n) :
    isSafeInteger m = true := by
  simp only [isSafeInteger, decide_eq_true_eq] at h ⊢
  omega

variable {disposition : SessionDisposition} {db : Central} {runId : RunId}
  {bundle : RoomContextBundle}

theorem validateRoomContextConsumption_iff {run : RunRecord}
    (hbundle : (db.deliveries.get runId).bind (·.payload.roomContextBundle) = some bundle)
    (hrun : db.runs.get runId = some run) :
    validateRoomContextConsumption db runId disposition n consumption = .ok () ↔
      consumption = intervalAt bundle disposition consumption.baseContextCursor ∧
        n = consumption.coverageThroughSequence ∧
        Admissible (latestMessageSequence db run.roomId) disposition consumption := by
  obtain ⟨base, checkpointId, rawFrom, through, count, coverage⟩ := consumption
  unfold validateRoomContextConsumption checkRoomContextConsumption
  simp only [hbundle, hrun, refused_else, intervalAt, RoomContextConsumption.mk.injEq, true_and,
    not_not]
  constructor
  · rintro ⟨hguard, hrange, hfresh, hcheckpoint, hfrom, -⟩
    push Not at hrange
    simp only [List.any_cons, List.any_nil, Bool.or_false, Bool.or_eq_true, not_or,
      Bool.not_eq_true', Bool.not_eq_false] at hguard
    obtain ⟨hfew, hthrough, hinterval, hcursor, hcoverage, -, hwritten⟩ := hrange
    have hcount : count = bundle.rawTail.throughSequenceInclusive - rawFrom := by omega
    refine ⟨⟨hcheckpoint, hfrom, hthrough, hfrom ▸ hcount, hcoverage⟩, hcursor, ?_, ?_, hfew,
      hwritten, hguard.2.2.2.2.2, hguard.2.2.2.1⟩
    · intro hnot
      by_contra hzero
      refine hfresh ⟨?_, hzero⟩
      cases disposition
      · exact .inl rfl
      · exact absurd rfl hnot
      · exact .inr rfl
    · dsimp only
      omega
  · rintro ⟨⟨hcheckpoint, hfrom, hthrough, hcount, hcoverage⟩, hcursor, hadmissible⟩
    rw [← hfrom] at hcount
    have hwithin := hadmissible.forward
    have hfew := hadmissible.few
    have hwritten := hadmissible.written
    dsimp only at hwithin hfew hwritten
    have hsafe : ∀ m, m ≤ coverage ∨ m ≤ through → isSafeInteger m = true := fun m hm =>
      hm.elim (isSafeInteger_mono hadmissible.safe.1) (isSafeInteger_mono hadmissible.safe.2)
    refine ⟨?_, ?_, ?_, hcheckpoint, hfrom, rfl⟩
    · simp only [List.any_cons, List.any_nil, Bool.or_false, Bool.or_eq_true, not_or,
        Bool.not_eq_true', Bool.not_eq_false]
      exact ⟨hsafe _ (by omega), hsafe _ (by omega), hsafe _ (by omega), hsafe _ (by omega),
        hsafe _ (by omega), hsafe _ (by omega)⟩
    · push Not
      exact ⟨hfew, hthrough, by omega, hcursor, hcoverage, by omega, hwritten⟩
    · rintro ⟨hnew, hzero⟩
      refine hzero (hadmissible.fresh ?_)
      rcases hnew with rfl | rfl <;> decide

theorem validateReportedConsumption_iff :
    validateReportedConsumption db runId disposition contextCursor receipt = .ok () ↔
      ∃ bundle run base,
        (db.deliveries.get runId).bind (·.payload.roomContextBundle) = some bundle ∧
        db.runs.get runId = some run ∧
        receipt = reported (intervalAt bundle disposition base) ∧
        contextCursor = cursor (intervalAt bundle disposition base).coverageThroughSequence ∧
        Admissible (latestMessageSequence db run.roomId) disposition
          (intervalAt bundle disposition base) := by
  unfold validateReportedConsumption
  constructor
  · intro hok
    split at hok
    · next bundle run hbundle hrun =>
        split at hok
        · cases hok
        · next n consumption hread =>
            obtain ⟨hcursor, hreceipt, -⟩ := readConsumption_eq_some.mp hread
            obtain ⟨hinterval, rfl, hadmissible⟩ :=
              (validateRoomContextConsumption_iff hbundle hrun).mp hok
            refine ⟨bundle, run, consumption.baseContextCursor, hbundle, hrun, ?_, ?_, ?_⟩
            all_goals rw [← hinterval]
            · exact hreceipt
            · exact hcursor
            · exact hadmissible
    · cases hok
  · rintro ⟨bundle, run, base, hbundle, hrun, rfl, rfl, hadmissible⟩
    have hread : readConsumption
        (cursor (intervalAt bundle disposition base).coverageThroughSequence)
        (reported (intervalAt bundle disposition base)) =
          some ((intervalAt bundle disposition base).coverageThroughSequence,
            intervalAt bundle disposition base) := by
      refine readConsumption_eq_some.mpr ⟨rfl, rfl, fun m hm => ?_⟩
      -- each number of the receipt is below one of the two that are safe
      have hle : m ≤ (intervalAt bundle disposition base).coverageThroughSequence ∨
          m ≤ (intervalAt bundle disposition base).rawThroughSequenceInclusive := by
        have hforward := hadmissible.forward
        simp only [List.mem_cons, List.not_mem_nil, or_false] at hm
        rcases hm with rfl | rfl | rfl | rfl | rfl | rfl
        · exact .inl le_rfl
        · exact .inl (le_max_left _ _)
        · exact .inr hforward
        · exact .inr le_rfl
        · exact .inr (Nat.sub_le _ _)
        · exact .inl le_rfl
      exact hle.elim (isSafeInteger_mono hadmissible.safe.1) (isSafeInteger_mono hadmissible.safe.2)
    rw [hbundle, hrun]
    dsimp only
    rw [hread]
    exact (validateRoomContextConsumption_iff hbundle hrun).mpr ⟨rfl, rfl, hadmissible⟩

theorem intervalAt_within {base sequence : Nat}
    (hfrom : (intervalAt bundle disposition base).rawFromSequenceExclusive < sequence)
    (hthrough : sequence ≤ (intervalAt bundle disposition base).rawThroughSequenceInclusive) :
    bundle.rawTail.fromSequenceExclusive < sequence ∧
      sequence ≤ bundle.rawTail.throughSequenceInclusive := by
  refine ⟨?_, hthrough⟩
  unfold intervalAt at hfrom hthrough
  dsimp only at hfrom hthrough
  split at hfrom
  · exact hfrom
  · omega

/-- **What the delivery checks accept.** -/
structure ConsumptionChecks : Prop where
  /-- A failure is accepted in place of receipts when something is pinned: the one failure, next to
  no receipts. -/
  failed : ∀ delivery materializations failure,
    validateArtifactMaterializations delivery materializations (some failure) = .ok () ↔
      expectedMaterializations delivery ≠ [] ∧ Unverified failure ∧
        (materializations = none ∨ materializations = some (.arr []))
  /-- Otherwise the receipts are the pinned Artifacts, which are distinct, in some order; they may
  be left out where nothing is pinned. -/
  received : ∀ delivery materializations,
    validateArtifactMaterializations delivery materializations none = .ok () ↔
      (materializations = none ∧ expectedMaterializations delivery = []) ∨
      ∃ receipts, materializations = some (.arr receipts) ∧
        ((expectedMaterializations delivery).map Prod.fst).Nodup ∧
        Materialized receipts (expectedMaterializations delivery)
  /-- A consumption is an interval of the frozen bundle, and the cursor next to it its coverage. -/
  consumed : ∀ db runId disposition contextCursor receipt,
    validateReportedConsumption db runId disposition contextCursor receipt = .ok () ↔
      ∃ bundle run base,
        (db.deliveries.get runId).bind (·.payload.roomContextBundle) = some bundle ∧
        db.runs.get runId = some run ∧
        receipt = reported (intervalAt bundle disposition base) ∧
        contextCursor = cursor (intervalAt bundle disposition base).coverageThroughSequence ∧
        Admissible (latestMessageSequence db run.roomId) disposition
          (intervalAt bundle disposition base)
  /-- No interval has a message outside the frozen raw tail. -/
  within : ∀ bundle disposition base sequence,
    (intervalAt bundle disposition base).rawFromSequenceExclusive < sequence →
    sequence ≤ (intervalAt bundle disposition base).rawThroughSequenceInclusive →
      bundle.rawTail.fromSequenceExclusive < sequence ∧
        sequence ≤ bundle.rawTail.throughSequenceInclusive

theorem consumption_checks : ConsumptionChecks where
  failed _ _ _ := validate_failure
  received _ _ := validate_receipts
  consumed _ _ _ _ _ := validateReportedConsumption_iff
  within _ _ _ _ := intervalAt_within

/-! ## A failure -/

/-- A pinned review. -/
def samplePinned : ContextArtifactRef where
  artifactId := "artifact_review1"
  content := some ⟨"content_review1", "artifact://artifact_review1/review.md", "text/markdown",
    "sha256", 12⟩

def sampleDelivery : DeliveryRecord where
  deliveryAttemptId := 1
  traceId := 1
  runId := 1
  deviceId := 1
  idempotencyKey := 1
  payloadHash := "hash"
  payload :=
    { runId := 1, traceId := 1, roomId := 1, taskId := 1, session := ⟨4, none⟩
      triggerMessageId := 1, requesterMemberId := 1, targetAgentId := 1
      targetAgentName := "Reviewer", deliveryAttemptId := 1, idempotencyKey := 1
      parentRunId := none, instruction := "Review it."
      contextPlan := ⟨"", "", some ⟨1, 0, 1, false, [samplePinned]⟩⟩
      contextManifest := "manifest", contextMessages := [], roomContextBundle := none
      routingAgents := [], discussionSupplementalEvidence := none, deadline := 10 }
  state := .pending
  sendCount := 1
  createdAt := 1
  lastSentAt := some 1
  acceptedAt := none

def sampleFailure : Json :=
  .obj [("code", .str "ARTIFACT_MATERIALIZATION_FAILED"), ("retryable", .bool false),
    ("message", .str "Pinned Artifact content could not be verified in isolated staging.")]

theorem sampleFailure_unverified : Unverified sampleFailure where
  object := rfl
  code := by simp [sampleFailure, Json.strField, Json.field, Json.asStr]
  retryable := by simp [sampleFailure, Json.boolField, Json.field, Json.asBool]
  message := by simp [sampleFailure, Json.strField, Json.field, Json.asStr]

/-- **An acceptance without the pinned receipts**: the Bridge reports that it could not verify
them. -/
theorem failure_accepted_without_receipts :
    ¬ ∀ delivery materializations failure,
      validateArtifactMaterializations delivery materializations failure = .ok () ↔
        ∃ receipts, materializations = some (.arr receipts) ∧
          Materialized receipts (expectedMaterializations delivery) := by
  intro hexactly
  have haccepted := validate_failure.mpr
    ⟨show expectedMaterializations sampleDelivery ≠ [] by simp [expectedMaterializations,
      sampleDelivery, samplePinned], sampleFailure_unverified, .inl rfl⟩
  obtain ⟨receipts, hreceipts, -⟩ := (hexactly _ _ _).mp haccepted
  cases hreceipts

end AgentRoom.DeliveryService
