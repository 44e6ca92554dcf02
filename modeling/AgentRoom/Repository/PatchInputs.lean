import AgentRoom.Repository.PatchBounds
import AgentRoom.Repository.Capture

/-!
# The inputs of a preparation

A preparation is given patches, and resumes from one more. Three checks bound them by one limit:
their sizes when they are frozen, their expansions when the intent is made, and once more, together
with the patch of the checkpoint, before it is resumed from.
-/

namespace AgentRoom.Repository

open Except (require demand FailsWith)

structure PatchInput where
  bindingId : String
  sha256 : String
  bytes : List UInt8

structure InputPin where
  bindingId : String
  sha256 : String
  bytes : Nat

/-- `Limits.normalized`, of the bytes of a snapshot. -/
def snapshotLimit (configured : Int) : Except PatchError Int := do
  let limit := if configured = 0 then 134217728 else configured
  require (1 ≤ limit ∧ limit ≤ 536870912) PatchError.invalid
  pure limit

/-- The size of a patch, under what is left of a limit. -/
def checkSize (limit used : Int) (bytes : List UInt8) : Except PatchError Unit := do
  require (bytes.length ≤ 67108864) PatchError.limit
  let room ← int64 (limit - used)
  require ((bytes.length : Int) ≤ room) PatchError.limit

/-- The loop of `freezeInputs`, past inputs of some size. -/
def freezeSizes (limit size : Int) : List PatchInput → Except PatchError Unit
  | [] => pure ()
  | input :: rest => do
      checkSize limit size input.bytes
      let size ← int64 (size + input.bytes.length)
      freezeSizes limit size rest

def freezeInputs (limit : Int) (inputs : List PatchInput) : Except PatchError Unit := do
  require (inputs.length ≤ 32) PatchError.invalid
  freezeSizes limit 0 inputs

variable (inflate : List UInt8 → Option (List UInt8)) (sha256 : List UInt8 → String)

/-- The loop of `intent` over the inputs, past some that expand to `used`. -/
def pinInputs (limit used : Int) (seen : List String) :
    List PatchInput → Except PatchError (List InputPin)
  | [] => pure []
  | input :: rest => do
      require (localID input.bindingId = true ∧ input.bindingId ∉ seen ∧
        sha256ID input.sha256 = true ∧ input.sha256 = sha256 input.bytes ∧ input.bytes ≠ [])
        PatchError.invalid
      checkSize limit used input.bytes
      let room ← int64 (limit - used)
      let expansion ← patchExpansionBound inflate room input.bytes
      let used ← int64 (used + expansion)
      let pins ← pinInputs limit used (input.bindingId :: seen) rest
      pure (⟨input.bindingId, input.sha256, input.bytes.length⟩ :: pins)

/-- The loop of `checkInputs`: what the inputs expand to, past `used`. -/
def sumInputs (limit used : Int) : List PatchInput → Except PatchError Int
  | [] => pure used
  | input :: rest => do
      let room ← int64 (limit - used)
      let expansion ← patchExpansionBound inflate room input.bytes
      let used ← int64 (used + expansion)
      sumInputs limit used rest

def checkInputs (limit : Int) (inputs : List PatchInput) (patch : List UInt8) :
    Except PatchError Unit := do
  let used ← sumInputs inflate limit 0 inputs
  if patch = [] then pure ()
  else do
    let room ← int64 (limit - used)
    let _ ← patchExpansionBound inflate room patch
    pure ()

/-- The checks of `prepareLocked` on its inputs, and on the patch that it resumes from. -/
def admitInputs (limit : Int) (inputs : List PatchInput) (resume : Option (List UInt8)) :
    Except PatchError (List InputPin) := do
  freezeInputs limit inputs
  require (inputs.length ≤ 32) PatchError.invalid
  let pins ← pinInputs inflate sha256 limit 0 [] inputs
  match resume with
  | none => pure pins
  | some patch => do
      checkInputs inflate limit inputs patch
      pure pins

/-! ## What is summed up -/

/-- **What a patch expands to**: its own bytes, and the expansion of each of its binary hunks. -/
def ExpandsTo (patch : List UInt8) (total : Int) : Prop :=
  ∃ expansions, List.Forall₂ (Accepted inflate) (binaryHunks (scanLines patch)) expansions ∧
    total = patch.length + expansions.sum

variable {inflate sha256} {limit used : Int} {inputs : List PatchInput}

theorem Accepted.nonneg {hunk : BinaryHunk} {expansion : Int}
    (h : Accepted inflate hunk expansion) :
    0 ≤ expansion := by
  obtain ⟨_, _, _, _, _, hexpands⟩ := h.inflates
  exact hexpands.nonneg

theorem sum_accepted_nonneg {hunks : List BinaryHunk} {expansions : List Int}
    (h : List.Forall₂ (Accepted inflate) hunks expansions) : 0 ≤ expansions.sum := by
  induction h with
  | nil => exact Int.le_refl 0
  | cons hhunk _ ih =>
    have := hhunk.nonneg
    rw [List.sum_cons]
    omega

variable {patch : List UInt8}

theorem ExpandsTo.length_le {total : Int} (h : ExpandsTo inflate patch total) :
    (patch.length : Int) ≤ total := by
  obtain ⟨expansions, hhunks, rfl⟩ := h
  have := sum_accepted_nonneg hhunks
  omega

theorem patchExpansionBound_expandsTo {b : Int}
    (h : patchExpansionBound inflate limit patch = .ok b) :
    ExpandsTo inflate patch b ∧ b ≤ limit := by
  obtain ⟨expansions, hhunks, hb, hle⟩ := patchExpansionBound_ok h
  exact ⟨⟨expansions, hhunks, hb⟩, hle⟩

/-- **The sum of the inputs**: what each of them expands to, under the limit. -/
theorem sumInputs_ok {total : Int} (hused : used ≤ limit ∨ inputs ≠ [])
    (h : sumInputs inflate limit used inputs = .ok total) :
    ∃ totals, List.Forall₂ (fun input => ExpandsTo inflate input.bytes) inputs totals ∧
      total = used + totals.sum ∧ total ≤ limit := by
  induction inputs generalizing used with
  | nil =>
    obtain rfl := Except.ok.inj h
    exact ⟨[], .nil, by simp, hused.elim id fun h => absurd rfl h⟩
  | cons input rest ih =>
    obtain ⟨room, hroom, h⟩ := Except.of_bind h
    obtain rfl := int64_ok hroom
    obtain ⟨expansion, hexpansion, h⟩ := Except.of_bind h
    obtain ⟨hexpands, hle⟩ := patchExpansionBound_expandsTo hexpansion
    obtain ⟨used', hused', h⟩ := Except.of_bind h
    obtain rfl := int64_ok hused'
    obtain ⟨totals, htotals, rfl, hlimit⟩ := ih (.inl (by omega)) h
    refine ⟨expansion :: totals, .cons hexpands htotals, ?_, hlimit⟩
    rw [List.sum_cons]
    omega

theorem sum_totals_nonneg {totals : List Int}
    (h : List.Forall₂ (fun input => ExpandsTo inflate (PatchInput.bytes input)) inputs totals) :
    0 ≤ totals.sum := by
  induction h with
  | nil => exact Int.le_refl 0
  | cons hexpands _ ih =>
    have := hexpands.length_le
    rw [List.sum_cons]
    omega

/-- Inputs that are pinned are summed up on the way. -/
theorem pinInputs_ok {seen : List String} {pins : List InputPin}
    (h : pinInputs inflate sha256 limit used seen inputs = .ok pins) :
    pins = inputs.map (fun input => ⟨input.bindingId, input.sha256, input.bytes.length⟩) ∧
      ∃ total, sumInputs inflate limit used inputs = .ok total := by
  induction inputs generalizing used seen pins with
  | nil =>
    obtain rfl := Except.ok.inj h
    exact ⟨rfl, used, rfl⟩
  | cons input rest ih =>
    obtain ⟨-, h⟩ := Except.of_require h
    obtain ⟨_, -, h⟩ := Except.of_bind h
    obtain ⟨room, hroom, h⟩ := Except.of_bind h
    obtain ⟨expansion, hexpansion, h⟩ := Except.of_bind h
    obtain ⟨used', hused', h⟩ := Except.of_bind h
    obtain ⟨more, hmore, h⟩ := Except.of_bind h
    obtain rfl := Except.ok.inj h
    obtain ⟨rfl, total, htotal⟩ := ih hmore
    refine ⟨rfl, total, ?_⟩
    exact (Except.bind_of_ok hroom).trans ((Except.bind_of_ok hexpansion).trans
      ((Except.bind_of_ok hused').trans htotal))

theorem checkInputs_ok (hpos : 0 ≤ limit) (h : checkInputs inflate limit inputs patch = .ok ()) :
    ∃ totals last, List.Forall₂ (fun input => ExpandsTo inflate input.bytes) inputs totals ∧
      ExpandsTo inflate patch last ∧ totals.sum + last ≤ limit := by
  obtain ⟨used, hsum, h⟩ := Except.of_bind h
  obtain ⟨totals, htotals, rfl, hle⟩ := sumInputs_ok (.inl hpos) hsum
  split at h
  · next hempty =>
      subst hempty
      exact ⟨totals, 0, htotals, ⟨[], .nil, rfl⟩, by omega⟩
  · obtain ⟨room, hroom, h⟩ := Except.of_bind h
    obtain rfl := int64_ok hroom
    obtain ⟨last, hlast, -⟩ := Except.of_bind h
    obtain ⟨hexpands, hunder⟩ := patchExpansionBound_expandsTo hlast
    exact ⟨totals, last, htotals, hexpands, by omega⟩

/-! ## No sum overflows -/

/-- What is used of a limit that fits. -/
structure UsedOf (limit used : Int) : Prop where
  nonneg : 0 ≤ used
  le : used ≤ limit
  fits : limit ≤ 9223372036854775807

theorem UsedOf.room (h : UsedOf limit used) : NoOverflow (int64 (limit - used)) := by
  have := h.nonneg
  have := h.le
  have := h.fits
  exact .of_ok (int64_fits (by omega) (by omega))

theorem UsedOf.bound (h : UsedOf limit used) {room : Int} (hroom : int64 (limit - used) = .ok room)
    (patch : List UInt8) : NoOverflow (patchExpansionBound inflate room patch) := by
  have := h.nonneg
  have := h.fits
  have := int64_ok hroom
  exact patchExpansionBound_noOverflow inflate (by omega) patch

theorem UsedOf.next (h : UsedOf limit used) {room expansion : Int} {patch : List UInt8}
    (hroom : int64 (limit - used) = .ok room)
    (hbound : patchExpansionBound inflate room patch = .ok expansion) :
    UsedOf limit (used + expansion) := by
  obtain rfl := int64_ok hroom
  obtain ⟨hexpands, hle⟩ := patchExpansionBound_expandsTo hbound
  have := hexpands.length_le
  have := h.nonneg
  exact ⟨by omega, by omega, h.fits⟩

theorem UsedOf.sum (h : UsedOf limit used) : NoOverflow (int64 used) := by
  have := h.nonneg
  have := h.le
  have := h.fits
  exact .of_ok (int64_fits (by omega) (by omega))

theorem checkSize_noOverflow (h : UsedOf limit used) (bytes : List UInt8) :
    NoOverflow (checkSize limit used bytes) :=
  .bind (.require (by decide)) fun _ _ => .bind h.room fun _ _ => .require (by decide)

theorem checkSize_ok {bytes : List UInt8} {u : Unit} (h : checkSize limit used bytes = .ok u) :
    (bytes.length : Int) ≤ limit - used := by
  obtain ⟨-, h⟩ := Except.of_require h
  obtain ⟨room, hroom, h⟩ := Except.of_bind h
  exact int64_ok hroom ▸ Except.require_eq_ok.mp h

theorem freezeSizes_noOverflow (h : UsedOf limit used) (inputs : List PatchInput) :
    NoOverflow (freezeSizes limit used inputs) := by
  induction inputs generalizing used with
  | nil => exact .of_ok rfl
  | cons input rest ih =>
    refine .bind (checkSize_noOverflow h _) fun _ hsize => ?_
    have hlength := checkSize_ok hsize
    have hnonneg := h.nonneg
    have hnext : UsedOf limit (used + input.bytes.length) := ⟨by omega, by omega, h.fits⟩
    refine .bind hnext.sum fun size hsum => ?_
    obtain rfl := int64_ok hsum
    exact ih hnext

theorem pinInputs_noOverflow (h : UsedOf limit used) (seen : List String)
    (inputs : List PatchInput) : NoOverflow (pinInputs inflate sha256 limit used seen inputs) := by
  induction inputs generalizing used seen with
  | nil => exact .of_ok rfl
  | cons input rest ih =>
    refine .bind (.require (by decide)) fun _ _ => .bind (checkSize_noOverflow h _) fun _ _ => ?_
    refine .bind h.room fun room hroom => .bind (h.bound hroom _) fun expansion hbound => ?_
    have hnext := h.next hroom hbound
    refine .bind hnext.sum fun used' hsum => ?_
    obtain rfl := int64_ok hsum
    exact .bind (ih hnext _) fun pins _ => .of_ok rfl

theorem checkInputs_noOverflow (h : UsedOf limit 0) (inputs : List PatchInput)
    (patch : List UInt8) : NoOverflow (checkInputs inflate limit inputs patch) := by
  have hsums : ∀ used, UsedOf limit used → NoOverflow (sumInputs inflate limit used inputs) := by
    induction inputs with
    | nil => exact fun used _ => .of_ok rfl
    | cons input rest ih =>
      intro used h
      refine .bind h.room fun room hroom => .bind (h.bound hroom _) fun expansion hbound => ?_
      have hnext := h.next hroom hbound
      refine .bind hnext.sum fun used' hsum => ?_
      obtain rfl := int64_ok hsum
      exact ih _ hnext
  refine .bind (hsums 0 h) fun used hsum => ?_
  obtain ⟨totals, htotals, hused, hle⟩ := sumInputs_ok (.inl h.le) hsum
  have hnonneg := sum_totals_nonneg htotals
  split
  · exact .of_ok rfl
  · have hleft : UsedOf limit used := ⟨by omega, hle, h.fits⟩
    exact .bind hleft.room fun room hroom => .bind (hleft.bound hroom _) fun _ _ => .of_ok rfl

/-! ## The law -/

theorem snapshotLimit_ok {configured : Int} (h : snapshotLimit configured = .ok limit) :
    UsedOf limit 0 := by
  obtain ⟨⟨hlow, hhigh⟩, h⟩ := Except.of_require h
  obtain rfl := Except.ok.inj h
  exact ⟨Int.le_refl 0, by omega, by omega⟩

variable (inflate sha256)

/-- **What the limits of a patch promise.** -/
structure PatchBoundLaw : Prop where
  /-- The bound of a patch is its length and what each of its binary hunks expands to: what it
  inflates to, which is what it declares, or the target of a delta if that is more. It stays under
  the limit. -/
  bound : ∀ limit patch b, patchExpansionBound inflate limit patch = .ok b →
    (∃ expansions, List.Forall₂ (Accepted inflate) (binaryHunks (scanLines patch)) expansions ∧
      b = patch.length + expansions.sum) ∧ b ≤ limit
  /-- No sum overflows, for any limit and any patch. -/
  noOverflow : ∀ (limit : Int64) patch,
    patchExpansionBound inflate limit.toInt patch ≠ .error .overflow
  /-- All inputs of a preparation expand to no more than its limit, and so they do together with
  the patch that it resumes from. -/
  inputs : ∀ configured limit inputs resume pins, snapshotLimit configured = .ok limit →
    admitInputs inflate sha256 limit inputs resume = .ok pins →
    ∃ totals last, List.Forall₂ (fun input => ExpandsTo inflate input.bytes) inputs totals ∧
      ExpandsTo inflate (resume.getD []) last ∧ totals.sum + last ≤ limit
  /-- No sum of these overflows. -/
  inputsNoOverflow : ∀ configured limit inputs resume, snapshotLimit configured = .ok limit →
    admitInputs inflate sha256 limit inputs resume ≠ .error .overflow
  /-- A line that Git writes for one to 52 bytes is read back. -/
  decode : ∀ bytes, 1 ≤ bytes.length → bytes.length ≤ 52 →
    decodePatchLine (encodePatchLine bytes) = .ok bytes
  /-- A line is read exactly if it is the line of one to 52 bytes, with anything that fills up its
  last group; every other one is refused. -/
  accepted : ∀ line bytes, decodePatchLine line = .ok bytes ↔ 1 ≤ bytes.length ∧
    bytes.length ≤ 52 ∧ ∃ filler, filler.length = filling bytes.length ∧
      line = lineOf bytes filler

theorem patch_bound_law : PatchBoundLaw inflate sha256 where
  bound limit patch b h := by
    obtain ⟨expansions, hhunks, hb, hle⟩ := patchExpansionBound_ok h
    exact ⟨⟨expansions, hhunks, hb⟩, hle⟩
  noOverflow limit patch h :=
    patchExpansionBound_noOverflow inflate (Int64.toInt_le limit) patch _ h rfl
  inputs configured limit inputs resume pins hlimit h := by
    have hpos := (snapshotLimit_ok hlimit).le
    obtain ⟨_, -, h⟩ := Except.of_bind h
    obtain ⟨-, h⟩ := Except.of_require h
    obtain ⟨pinned, hpins, h⟩ := Except.of_bind h
    cases resume with
    | none =>
      obtain ⟨-, total, hsum⟩ := pinInputs_ok hpins
      obtain ⟨totals, htotals, rfl, hle⟩ := sumInputs_ok (.inl hpos) hsum
      exact ⟨totals, 0, htotals, ⟨[], .nil, rfl⟩, by omega⟩
    | some patch =>
      obtain ⟨_, hcheck, -⟩ := Except.of_bind h
      exact checkInputs_ok hpos hcheck
  inputsNoOverflow configured limit inputs resume hlimit h := by
    have hused := snapshotLimit_ok hlimit
    have hall : NoOverflow (admitInputs inflate sha256 limit inputs resume) := by
      refine .bind (.bind (.require (by decide)) fun _ _ => freezeSizes_noOverflow hused _)
        fun _ _ => .bind (.require (by decide)) fun _ _ =>
          .bind (pinInputs_noOverflow hused _ _) fun pins _ => ?_
      cases resume with
      | none => exact .of_ok rfl
      | some patch => exact .bind (checkInputs_noOverflow hused _ _) fun _ _ => .of_ok rfl
    exact hall _ h rfl
  decode bytes hpos hle := decodePatchLine_encode hpos hle
  accepted line bytes := decodePatchLine_iff

end AgentRoom.Repository
