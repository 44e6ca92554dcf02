import Mathlib.Data.List.Range
import Mathlib.Tactic.Common

/-!
# Numbered logs and the receiver that applies them once

A log is numbered from `first` when its entries carry `first`, `first + 1`, … in
order. A receiver remembers the last number it applied: it takes a number at or
below it for a duplicate, applies the next one, and calls anything else a gap.

Replaying a numbered log to a receiver that has applied any prefix of it never
meets a gap, and leaves the receiver at the end of the log.
-/

namespace SeqLog

/-- The numbers of a log are `first`, `first + 1`, … without gap or duplicate. -/
def Numbered (first : Nat) (numbers : List Nat) : Prop :=
  numbers = List.range' first numbers.length

theorem numbered_nil (first : Nat) : Numbered first [] := rfl

variable {first : Nat} {numbers : List Nat}

theorem Numbered.append (h : Numbered first numbers) {n : Nat} (hn : n = first + numbers.length) :
    Numbered first (numbers ++ [n]) := by
  unfold Numbered at *
  rw [List.length_append, List.length_singleton, List.range'_concat, ← h, hn]
  simp

theorem numbered_append {n : Nat} :
    Numbered first (numbers ++ [n]) ↔ Numbered first numbers ∧ n = first + numbers.length := by
  constructor
  · intro h
    unfold Numbered at *
    rw [List.length_append, List.length_singleton, List.range'_concat] at h
    obtain ⟨hl, hn⟩ := List.append_inj' h rfl
    refine ⟨hl, ?_⟩
    simpa using hn
  · rintro ⟨h, hn⟩
    exact h.append hn

theorem numbered_cons :
    Numbered first (first :: numbers) ↔ Numbered (first + 1) numbers := by
  unfold Numbered
  rw [List.length_cons, List.range'_succ]
  simp

/-- **The receiver.** The number it remembers after one more, or `none` on a gap. -/
def receive (last n : Nat) : Option Nat :=
  if n ≤ last then some last else if n = last + 1 then some n else none

/-- The receiver, fed a list of numbers. -/
def receiveAll (last : Nat) : List Nat → Option Nat
  | [] => some last
  | n :: rest => (receive last n).bind fun last' => receiveAll last' rest

/-- **Replay never gaps.** A log numbered from `first`, fed to a receiver that has everything
before `first`, is taken whole, whatever part of it was applied before. -/
theorem receiveAll_numbered (h : Numbered first numbers) {last : Nat} (hlast : first ≤ last + 1) :
    receiveAll last numbers = some (max last (first + numbers.length - 1)) := by
  induction numbers generalizing first last with
  | nil =>
    simp only [receiveAll, List.length_nil]
    congr 1
    omega
  | cons n rest ih =>
    obtain rfl : n = first := by
      have := congrArg List.head? h
      simpa [List.range'_succ] using this
    have hrest := numbered_cons.mp h
    unfold receiveAll receive
    by_cases hle : n ≤ last
    · rw [if_pos hle, Option.bind_some, ih hrest (by omega)]
      simp only [List.length_cons]
      congr 1
      omega
    · have hn : n = last + 1 := by omega
      rw [if_neg hle, if_pos hn, Option.bind_some, ih hrest (by omega)]
      simp only [List.length_cons]
      congr 1
      omega

end SeqLog
