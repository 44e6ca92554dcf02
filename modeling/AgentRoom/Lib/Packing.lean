import Mathlib.Tactic.Common

/-!
# Texts that tell lists apart

An injective packing of a list of texts into one text, for digests that are to have no two
arguments in common.
-/

namespace Packing

/-- A text no other list of texts has. -/
def packed (parts : List (List Char)) : List Char :=
  parts.flatMap fun part => part.flatMap (fun c => ['.', c]) ++ ['/']

theorem packed_cons {part : List Char} {parts : List (List Char)} :
    packed (part :: parts) = part.flatMap (fun c => ['.', c]) ++ '/' :: packed parts := by
  simp [packed]

theorem packed_injective {a b : List (List Char)} (h : packed a = packed b) : a = b := by
  induction a generalizing b with
  | nil =>
    cases b with
    | nil => rfl
    | cons part parts =>
      rw [packed_cons] at h
      cases part <;> cases h
  | cons part parts ih =>
    induction part generalizing b with
    | nil =>
      cases b with
      | nil => cases h
      | cons part' parts' =>
        rw [packed_cons, packed_cons] at h
        cases part' with
        | nil =>
          simp only [List.flatMap_nil, List.nil_append, List.cons.injEq, true_and] at h
          rw [ih h]
        | cons c cs => simp at h
    | cons c cs ihp =>
      cases b with
      | nil =>
        rw [packed_cons] at h
        cases h
      | cons part' parts' =>
        rw [packed_cons, packed_cons] at h
        cases part' with
        | nil => simp at h
        | cons c' cs' =>
          simp only [List.flatMap_cons, List.cons_append, List.nil_append,
            List.cons.injEq, true_and] at h
          obtain ⟨rfl, h⟩ := h
          rw [← packed_cons, ← packed_cons] at h
          cases ihp h
          rfl

/-- A number in unary, its sign first. -/
def digits : Int → List Char
  | .ofNat n => '+' :: List.replicate n 'i'
  | .negSucc n => '-' :: List.replicate n 'i'

theorem digits_injective {a b : Int} (h : digits a = digits b) : a = b := by
  cases a <;> cases b <;> simp_all [digits, List.replicate_inj]

end Packing
