import Mathlib.Data.List.Basic
import Mathlib.Tactic.Common

/-!
# Texts in segments

A text is cut into segments by a separator. A map of texts is segmentwise when it maps what
stands before and after a separator on its own and puts no separator into a segment. What such
a map makes equal it makes equal segment by segment: the image of a text splits only where the
text does.
-/

namespace Segments

variable {α : Type} {sep : α} {f g : List α → List α} {a b k p q r : List α}

/-- `a` is the text itself, or what stands before one of its separators. -/
def Leads (sep : α) (a p : List α) : Prop := p = a ∨ ∃ r, p = a ++ sep :: r

theorem Leads.refl (sep : α) (a : List α) : Leads sep a a := .inl rfl

theorem leads_append (sep : α) (a r : List α) : Leads sep a (a ++ sep :: r) := .inr ⟨r, rfl⟩

theorem Leads.trans (hab : Leads sep a b) (hbp : Leads sep b p) : Leads sep a p := by
  obtain rfl | ⟨r, rfl⟩ := hab
  · exact hbp
  · obtain rfl | ⟨s, rfl⟩ := hbp
    · exact leads_append sep a r
    · exact .inr ⟨r ++ sep :: s, by simp⟩

/-- What leads one text leads one another. -/
theorem Leads.comparable (ha : Leads sep a p) (hb : Leads sep b p) :
    Leads sep a b ∨ Leads sep b a := by
  have hfront : ∀ {q : List α}, Leads sep q p → q ++ [sep] <+: p ++ [sep] := by
    rintro q (rfl | ⟨r, rfl⟩)
    · exact List.prefix_rfl
    · exact ⟨r ++ [sep], by simp⟩
  -- of two beginnings of one text, one begins the other
  have hshort : ∀ {q r : List α}, q ++ [sep] <+: r ++ [sep] → Leads sep q r := by
    rintro q r ⟨s, hs⟩
    rcases List.eq_nil_or_concat s with rfl | ⟨s, c, rfl⟩
    · rw [List.append_nil] at hs
      exact .inl (List.append_cancel_right hs).symm
    · rw [List.concat_eq_append, ← List.append_assoc] at hs
      have hr := (List.append_inj' hs rfl).1
      exact .inr ⟨s, by rw [← hr]; simp⟩
  exact (List.prefix_or_prefix_of_prefix (hfront ha) (hfront hb)).imp hshort hshort

theorem leads_iff [DecidableEq α] : Leads sep a p ↔ p = a ∨ (a ++ [sep]).isPrefixOf p = true := by
  rw [List.isPrefixOf_iff_prefix]
  unfold Leads
  constructor
  · rintro (h | ⟨r, rfl⟩)
    · exact .inl h
    · exact .inr ⟨r, by simp⟩
  · rintro (h | ⟨r, rfl⟩)
    · exact .inl h
    · exact .inr ⟨r, by simp⟩

/-- **A map of texts, segment by segment.** -/
structure Segmentwise (sep : α) (f : List α → List α) : Prop where
  join : ∀ a b, f (a ++ sep :: b) = f a ++ sep :: f b
  plain : ∀ a, sep ∉ a → sep ∉ f a

theorem Segmentwise.id (sep : α) : Segmentwise sep (fun p => p) :=
  ⟨fun _ _ => rfl, fun _ h => h⟩

theorem Segmentwise.map {c : α → α} (h : ∀ x, c x = sep ↔ x = sep) :
    Segmentwise sep (List.map c) := by
  refine ⟨fun a b => ?_, fun a ha hin => ?_⟩
  · rw [List.map_append, List.map_cons, (h sep).mpr rfl]
  · obtain ⟨x, hx, hc⟩ := List.mem_map.mp hin
    rw [(h x).mp hc] at hx
    exact ha hx

theorem Segmentwise.comp (hg : Segmentwise sep g) (hf : Segmentwise sep f) :
    Segmentwise sep (fun p => g (f p)) :=
  ⟨fun a b => by rw [hf.join, hg.join], fun a ha => hg.plain _ (hf.plain a ha)⟩

theorem Segmentwise.leads (hf : Segmentwise sep f) (h : Leads sep a p) :
    Leads sep (f a) (f p) := by
  obtain rfl | ⟨r, rfl⟩ := h
  · exact Leads.refl sep _
  · rw [hf.join]
    exact leads_append sep _ _

/-- The first separator of a text, if it has one. -/
theorem exists_first [DecidableEq α] (sep : α) (p : List α) :
    sep ∉ p ∨ ∃ a r, p = a ++ sep :: r ∧ sep ∉ a := by
  induction p with
  | nil => exact .inl List.not_mem_nil
  | cons x p ih =>
    by_cases hx : x = sep
    · exact .inr ⟨[], p, by rw [hx]; rfl, List.not_mem_nil⟩
    · obtain hp | ⟨a, r, rfl, ha⟩ := ih
      · refine .inl fun hin => ?_
        obtain rfl | hin := List.mem_cons.mp hin
        · exact hx rfl
        · exact hp hin
      · refine .inr ⟨x :: a, r, rfl, fun hin => ?_⟩
        obtain rfl | hin := List.mem_cons.mp hin
        · exact hx rfl
        · exact ha hin

/-- Two splits of one text: the one with a plain beginning splits no later. -/
theorem split_of_plain (ha : sep ∉ a) (h : a ++ sep :: b = k ++ sep :: q) :
    (a = k ∧ b = q) ∨ ∃ r, k = a ++ sep :: r ∧ b = r ++ sep :: q := by
  obtain ⟨as, hk, hb⟩ | ⟨bs, hk, hq⟩ := List.append_eq_append_iff.mp h
  · cases as with
    | nil =>
      rw [List.append_nil] at hk
      rw [List.nil_append, List.cons.injEq] at hb
      exact .inl ⟨hk.symm, hb.2⟩
    | cons x as =>
      rw [List.cons_append, List.cons.injEq] at hb
      exact .inr ⟨as, by rw [hk, ← hb.1], hb.2⟩
  · cases bs with
    | nil =>
      rw [List.append_nil] at hk
      rw [List.nil_append, List.cons.injEq] at hq
      exact .inl ⟨hk, hq.2.symm⟩
    | cons x bs =>
      -- The beginning would hold the other split's separator.
      rw [List.cons_append, List.cons.injEq] at hq
      exact absurd (by rw [hk, ← hq.1]; simp) ha

/-- **An image splits only where its text does.** -/
theorem Segmentwise.split [DecidableEq α] (hf : Segmentwise sep f) (h : f p = k ++ sep :: q) :
    ∃ a b, p = a ++ sep :: b ∧ f a = k ∧ f b = q := by
  -- By the length of the text: its first segment is split off.
  induction hn : p.length using Nat.strongRecOn generalizing p k q with
  | ind n ih =>
    obtain hp | ⟨a, r, rfl, ha⟩ := exists_first sep p
    · exact absurd (by rw [h]; simp) (hf.plain p hp)
    · rw [hf.join] at h
      obtain ⟨hk, hq⟩ | ⟨r', hk, hr⟩ := split_of_plain (hf.plain a ha) h
      · exact ⟨a, r, rfl, hk, hq⟩
      · have hlt : r.length < n := by
          rw [← hn, List.length_append, List.length_cons]
          omega
        obtain ⟨c, d, rfl, hc, hd⟩ := ih r.length hlt hr rfl
        exact ⟨a ++ sep :: c, d, by simp, by rw [hf.join, hc, hk], hd⟩

theorem Segmentwise.exists_leads [DecidableEq α] (hf : Segmentwise sep f)
    (h : Leads sep k (f p)) : ∃ a, Leads sep a p ∧ f a = k := by
  obtain h | ⟨q, h⟩ := h
  · exact ⟨p, Leads.refl sep p, h⟩
  · obtain ⟨a, b, rfl, ha, -⟩ := hf.split h
    exact ⟨a, leads_append sep a b, ha⟩

/-- **A text under one prefix has the image of a text under another** exactly when something that
leads it has the image of the other prefix. -/
theorem Segmentwise.exists_under_iff [DecidableEq α] (hf : Segmentwise sep f) (k p : List α) :
    (∃ q, Leads sep k q ∧ f q = f p) ↔ ∃ a, Leads sep a p ∧ f a = f k := by
  constructor
  · rintro ⟨q, hq, heq⟩
    exact hf.exists_leads (heq ▸ hf.leads hq)
  · rintro ⟨a, ha, heq⟩
    obtain rfl | ⟨r, rfl⟩ := ha
    · exact ⟨k, Leads.refl sep k, heq.symm⟩
    · exact ⟨k ++ sep :: r, leads_append sep k r, by rw [hf.join, hf.join, heq]⟩

end Segments
