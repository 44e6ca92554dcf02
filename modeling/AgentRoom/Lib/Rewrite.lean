import Mathlib.Data.List.Basic

/-!
# Replacing the matches of a pattern

A pattern is a function from a text to the length of its match at the text's
head, if it matches there. `replaceAll` scans once from the left and puts a
mark in the place of each match, as a global regular expression does.

No result is longer than the text when no match is shorter than the mark.
-/

namespace Rewrite

variable {α : Type}

/-- The scan. `skip` symbols of the current match are still to be dropped. -/
def scan (pattern : List α → Option Nat) (mark : List α) : Nat → List α → List α
  | _, [] => []
  | skip + 1, _ :: rest => scan pattern mark skip rest
  | 0, c :: rest =>
    match pattern (c :: rest) with
    | some (n + 1) => mark ++ scan pattern mark n rest
    | _ => c :: scan pattern mark 0 rest

/-- Every match replaced by the mark. -/
def replaceAll (pattern : List α → Option Nat) (mark text : List α) : List α :=
  scan pattern mark 0 text

/-- A match lies inside the text and is no shorter than the mark. -/
def AtLeast (mark : List α) (pattern : List α → Option Nat) : Prop :=
  ∀ text n, pattern text = some n → mark.length ≤ n ∧ n ≤ text.length

variable {pattern : List α → Option Nat} {mark : List α}

theorem scan_length_le (h : AtLeast mark pattern) (skip : Nat) (text : List α)
    (hs : skip ≤ text.length) : (scan pattern mark skip text).length + skip ≤ text.length := by
  induction text generalizing skip with
  | nil => simpa [scan] using hs
  | cons c rest ih =>
    cases skip with
    | succ k =>
      have := ih k (by simpa using hs)
      simp only [scan, List.length_cons]
      omega
    | zero =>
      simp only [scan]
      split
      · rename_i n hm
        have hn := h _ _ hm
        simp only [List.length_cons] at hn
        have := ih n (by omega)
        simp only [List.length_append, List.length_cons]
        omega
      · have := ih 0 (Nat.zero_le _)
        simp only [List.length_cons]
        omega

/-- **A text never grows** when no match is shorter than the mark. -/
theorem replaceAll_length_le (h : AtLeast mark pattern) (text : List α) :
    (replaceAll pattern mark text).length ≤ text.length :=
  scan_length_le h 0 text (Nat.zero_le _)

end Rewrite
