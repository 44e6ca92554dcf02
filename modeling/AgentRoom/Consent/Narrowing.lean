import AgentRoom.Consent.GrantCheck
import AgentRoom.Lib.Narrowing

/-!
# Narrowing a scope

`scopeWithinGrant` compares two lists of prefixes. What it accepts admits no path that the grant
does not, and a chain of narrowings is one narrowing: a path that is given up stays given up.
-/

namespace AgentRoom.Consent

open Narrowing
open Plan (ScopePolicy)
open Repository (prefixContains prefixContains_iff allowedOutput allowedOutput_iff
  freezeScopePolicy sortPaths)

/-! ## Prefixes -/

theorem eq_dot_of_leads {a : Repository.Path} (h : Segments.Leads '/' a ['.']) : a = ['.'] := by
  obtain h | ⟨r, hr⟩ := h
  · exact h.symm
  · cases a with
    | nil => cases hr
    | cons c a => simp at hr

/-- **Prefixes are a forest.** -/
theorem prefixContains_forest : Forest fun a b => prefixContains a b = true where
  refl := prefixContains_self
  trans a b c hab hbc := by
    simp only [prefixContains_iff] at *
    obtain rfl | hab := hab
    · exact .inl rfl
    · obtain rfl | hbc := hbc
      · exact .inl (eq_dot_of_leads hab)
      · exact .inr (hab.trans hbc)
  comparable a b x hax hbx := by
    simp only [prefixContains_iff] at *
    obtain rfl | hax := hax
    · exact .inl (.inl rfl)
    · obtain rfl | hbx := hbx
      · exact .inr (.inl rfl)
      · exact (hax.comparable hbx).imp .inr .inr

/-! ## Scopes as regions -/

/-- What a scope lets a writer change. -/
def region (policy : Repository.ScopePolicy) : Region Repository.Path where
  allowed := { a | a ∈ policy.allowedPaths }
  denied := { d | d ∈ policy.forbiddenPaths }

variable {policy : Repository.ScopePolicy}

theorem allowedOutput_region {path : Repository.Path} :
    allowedOutput policy path = true ↔ policy.access = .isolatedWrite ∧
      (region policy).Admits (fun a b => prefixContains a b = true) path := by
  rw [allowedOutput_iff]
  refine and_congr_right fun _ => ?_
  unfold Region.Admits Region.Denies region
  rw [and_comm]
  refine and_congr Iff.rfl ?_
  simp only [Set.mem_ofPred_eq, not_exists, not_and, Bool.not_eq_true]

/-- The comparison of denials is that of the region's roots. -/
theorem keepsDenials_iff {request grant : Repository.ScopePolicy} {allowed : Repository.Path} :
    keepsDenials request grant allowed = true ↔ ∀ denied ∈ grant.forbiddenPaths,
      (prefixContains denied allowed = true →
        (region request).Denies (fun a b => prefixContains a b = true) allowed) ∧
      (prefixContains allowed denied = true → ¬ prefixContains denied allowed = true →
        (region request).Denies (fun a b => prefixContains a b = true) denied) := by
  unfold keepsDenials Region.Denies region
  rw [List.all_eq_true]
  refine forall₂_congr fun denied _ => ?_
  by_cases hcovers : prefixContains denied allowed = true
  · rw [if_pos hcovers, List.any_eq_true]
    exact ⟨fun h => ⟨fun _ => h, fun _ hnot => absurd hcovers hnot⟩, fun h => h.1 hcovers⟩
  · rw [if_neg hcovers]
    by_cases hinside : prefixContains allowed denied = true
    · rw [if_pos hinside, List.any_eq_true]
      exact ⟨fun h => ⟨fun hyes => absurd hyes hcovers, fun _ _ => h⟩,
        fun h => h.2 hinside hcovers⟩
    · rw [if_neg hinside]
      exact ⟨fun _ => ⟨fun hyes => absurd hyes hcovers, fun hyes => absurd hyes hinside⟩,
        fun _ => rfl⟩

/-- **What the comparison of two scopes says.** -/
theorem scopeWithin_iff {request grant : Repository.ScopePolicy} :
    scopeWithin request grant = true ↔
      (grant.requirePreventivePathEnforcement = true →
        request.requirePreventivePathEnforcement = true) ∧
      (request.access = .readOnly ∨ grant.access = .isolatedWrite ∧
        (region request).Within (fun a b => prefixContains a b = true) (region grant)) := by
  have hroots : (request.allowedPaths.all fun allowed =>
      grant.allowedPaths.any (fun parent => prefixContains parent allowed) &&
        keepsDenials request grant allowed) = true ↔
      (region request).Within (fun a b => prefixContains a b = true) (region grant) := by
    rw [List.all_eq_true]
    refine forall₂_congr fun allowed _ => ?_
    rw [Bool.and_eq_true, List.any_eq_true, keepsDenials_iff]
    exact ⟨fun ⟨hunder, hdenials⟩ => ⟨hunder, fun d hd => (hdenials d hd).1,
      fun d hd => (hdenials d hd).2⟩, fun h => ⟨h.under, fun d hd => ⟨h.above d hd, h.inside d hd⟩⟩⟩
  unfold scopeWithin
  rw [Bool.and_eq_true, Bool.or_eq_true, Bool.and_eq_true, decide_eq_true_eq, decide_eq_true_eq,
    hroots]
  refine and_congr ?_ Iff.rfl
  cases grant.requirePreventivePathEnforcement <;>
    cases request.requirePreventivePathEnforcement <;> simp

/-! ## Normalisation -/

variable {u : Repository.Unicode} {frozen : Repository.ScopePolicy}

/-- **What normalisation does**: it sorts the paths of a policy that it accepts. -/
theorem freezeScopePolicy_ok (h : freezeScopePolicy u policy = .ok frozen) :
    frozen = { policy with
      allowedPaths := sortPaths policy.allowedPaths
      forbiddenPaths := sortPaths policy.forbiddenPaths } := by
  unfold freezeScopePolicy at h
  split at h
  · cases h
  · obtain ⟨_, -, h⟩ := Except.of_bind h
    split at h
    · cases h
    · obtain ⟨_, -, h⟩ := Except.of_bind h
      dsimp only at h
      split at h
      · cases h
      · split at h
        · cases h
        · exact (Except.ok.inj h).symm

theorem region_frozen (h : freezeScopePolicy u policy = .ok frozen) :
    region frozen = region policy := by
  obtain rfl := freezeScopePolicy_ok h
  unfold region sortPaths
  simp only [List.mem_insertionSort]

theorem allowedOutput_frozen (h : freezeScopePolicy u policy = .ok frozen)
    (path : Repository.Path) :
    allowedOutput frozen path = allowedOutput policy path := by
  rw [Bool.eq_iff_iff, allowedOutput_region, allowedOutput_region, region_frozen h]
  obtain rfl := freezeScopePolicy_ok h
  rfl

theorem scopeWithinGrant_iff {request grant : ScopePolicy} :
    scopeWithinGrant u request grant = true ↔ ∃ r g,
      freezeScopePolicy u (pathPolicy request) = .ok r ∧
      freezeScopePolicy u (pathPolicy grant) = .ok g ∧ scopeWithin r g = true := by
  unfold scopeWithinGrant
  constructor
  · intro h
    split at h
    · next r g hr hg => exact ⟨r, g, hr, hg, h⟩
    · cases h
  · rintro ⟨r, g, hr, hg, h⟩
    rw [hr, hg]
    exact h

/-! ## The law -/

/-- **Narrowing**: the request as a step of a chain. -/
def Narrows (u : Repository.Unicode) (request grant : ScopePolicy) : Prop :=
  scopeWithinGrant u request grant = true

theorem Narrows.trans {a b c : ScopePolicy} (hab : Narrows u a b) (hbc : Narrows u b c) :
    Narrows u a c := by
  obtain ⟨fa, fb, ha, hb, hab⟩ := scopeWithinGrant_iff.mp hab
  obtain ⟨fb', fc, hb', hc, hbc⟩ := scopeWithinGrant_iff.mp hbc
  obtain rfl := Except.ok.inj (hb.symm.trans hb')
  refine scopeWithinGrant_iff.mpr ⟨fa, fc, ha, hc, ?_⟩
  rw [scopeWithin_iff] at *
  obtain ⟨hmodeAB, hpathsAB⟩ := hab
  obtain ⟨hmodeBC, hpathsBC⟩ := hbc
  refine ⟨fun hmode => hmodeAB (hmodeBC hmode), ?_⟩
  obtain hread | ⟨hwriteB, hwithinAB⟩ := hpathsAB
  · exact .inl hread
  · obtain hread | ⟨hwriteC, hwithinBC⟩ := hpathsBC
    · rw [hwriteB] at hread
      cases hread
    · exact .inr ⟨hwriteC, hwithinAB.trans prefixContains_forest hwithinBC⟩

/-- **What holds of a scope that is within another.** -/
structure NarrowingLaw (u : Repository.Unicode) : Prop where
  /-- Every output that the request allows, the grant allows: of the policies as they are given,
  and as they are normalised. -/
  outputs : ∀ request grant, Narrows u request grant → ∀ path,
    allowedOutput (pathPolicy request) path = true → allowedOutput (pathPolicy grant) path = true
  normalised : ∀ policy frozen, freezeScopePolicy u (pathPolicy policy) = .ok frozen →
    ∀ path, allowedOutput frozen path = allowedOutput (pathPolicy policy) path
  /-- The request does not weaken the enforcement of the grant. -/
  mode : ∀ request grant, Narrows u request grant →
    grant.requirePreventivePathEnforcement = true → request.requirePreventivePathEnforcement = true
  /-- Only what reads is within a grant to read. -/
  readOnly : ∀ request grant, Narrows u request grant →
    grant.access = .readOnly → request.access = .readOnly
  reflexive : ∀ policy frozen, freezeScopePolicy u (pathPolicy policy) = .ok frozen →
    Narrows u policy policy
  transitive : ∀ a b c, Narrows u a b → Narrows u b c → Narrows u a c
  /-- A chain of narrowings is one, and regains no path. -/
  chain : ∀ request grant, Relation.TransGen (Narrows u) request grant →
    Narrows u request grant ∧ ∀ path, allowedOutput (pathPolicy grant) path = false →
      allowedOutput (pathPolicy request) path = false

theorem Narrows.allowedOutput {request grant : ScopePolicy} (h : Narrows u request grant)
    {path : Repository.Path} (hpath : allowedOutput (pathPolicy request) path = true) :
    Repository.allowedOutput (pathPolicy grant) path = true := by
  obtain ⟨r, g, hr, hg, hwithin⟩ := scopeWithinGrant_iff.mp h
  rw [← allowedOutput_frozen hr] at hpath
  rw [← allowedOutput_frozen hg]
  obtain ⟨hwrite, hadmits⟩ := allowedOutput_region.mp hpath
  obtain ⟨-, hread | ⟨hgrant, hwithin⟩⟩ := scopeWithin_iff.mp hwithin
  · rw [hwrite] at hread
    cases hread
  · exact allowedOutput_region.mpr ⟨hgrant, hwithin.admits prefixContains_forest hadmits⟩

/-- **The narrowing law.** -/
theorem narrowing_law (u : Repository.Unicode) : NarrowingLaw u where
  outputs _ _ h _ hpath := h.allowedOutput hpath
  normalised _ _ h := allowedOutput_frozen h
  mode request grant h hmode := by
    obtain ⟨r, g, hr, hg, hwithin⟩ := scopeWithinGrant_iff.mp h
    obtain rfl := freezeScopePolicy_ok hr
    obtain rfl := freezeScopePolicy_ok hg
    exact (scopeWithin_iff.mp hwithin).1 hmode
  readOnly request grant h haccess := by
    obtain ⟨r, g, hr, hg, hwithin⟩ := scopeWithinGrant_iff.mp h
    obtain rfl := freezeScopePolicy_ok hr
    obtain rfl := freezeScopePolicy_ok hg
    obtain ⟨-, hread | ⟨hwrite, -⟩⟩ := scopeWithin_iff.mp hwithin
    · unfold pathPolicy at hread
      cases hrequest : request.access with
      | readOnly => rfl
      | isolatedWrite => simp [hrequest] at hread
    · simp [pathPolicy, haccess] at hwrite
  reflexive _ _ h := scopeWithinGrant_self h
  transitive _ _ _ := Narrows.trans
  chain request grant h := by
    have hnarrows : Narrows u request grant := by
      induction h with
      | single h => exact h
      | tail _ hlast ih => exact ih.trans hlast
    refine ⟨hnarrows, fun path hpath => ?_⟩
    rw [Bool.eq_false_iff] at *
    exact fun hrequest => hpath (hnarrows.allowedOutput hrequest)

end AgentRoom.Consent
