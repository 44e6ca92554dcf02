import Mathlib.Tactic.Common

/-!
# Files that are written once

A record file is linked into its directory with its whole content, or not at all,
and is never replaced: writing the same content again makes the link durable, and
any other content is refused. A write can fail on either side of the link. What
was linked without the directory being synced may be lost when the host stops.
-/

/-- A linked file: its content, and whether its directory was synced after the link. -/
structure WriteOnce (α : Type) where
  content : α
  durable : Bool

namespace WriteOnce

variable {α : Type}

/-- How the host goes through with a write. -/
inductive Attempt where
  | synced
  /-- The link is there, the directory is not synced. -/
  | unsynced
  /-- Nothing was linked. -/
  | failed
  deriving DecidableEq

/-- What a write returns. -/
inductive Outcome where
  | ok
  | conflict
  | failed
  deriving DecidableEq

/-- The content of a file, if there is one. -/
def read (file : Option (WriteOnce α)) : Option α := file.map (·.content)

/-- **Write `value`, unless the file holds something else.** -/
def ensure [DecidableEq α] (file : Option (WriteOnce α)) (value : α) :
    Attempt → Option (WriteOnce α) × Outcome
  | .failed => (file, .failed)
  | .unsynced =>
    match file with
    | none => (some { content := value, durable := false }, .failed)
    | some w => (file, if w.content = value then .failed else .conflict)
  | .synced =>
    match file with
    | none => (some { content := value, durable := true }, .ok)
    | some w =>
      if w.content = value then (some { w with durable := true }, .ok) else (file, .conflict)

/-- What a stop of the host leaves: a link that was not synced may be gone. -/
def afterStop (file : Option (WriteOnce α)) (lost : Bool) : Option (WriteOnce α) :=
  if lost then file.filter (·.durable) else file

section Ensure

variable [DecidableEq α] {file : Option (WriteOnce α)} {value : α} {attempt : Attempt}

/-- **What is written stays.** -/
theorem ensure_keeps {a : α} (h : read file = some a) :
    read (ensure file value attempt).1 = some a := by
  unfold read at h
  cases file with
  | none => cases h
  | some w =>
    cases attempt with
    | failed => exact h
    | unsynced => exact h
    | synced =>
      unfold ensure
      dsimp only
      split
      · exact h
      · exact h

theorem ensure_read :
    read (ensure file value attempt).1 = read file ∨
      (read file = none ∧ read (ensure file value attempt).1 = some value) := by
  cases file with
  | none =>
    cases attempt with
    | failed => exact .inl rfl
    | unsynced => exact .inr ⟨rfl, rfl⟩
    | synced => exact .inr ⟨rfl, rfl⟩
  | some w => exact .inl (ensure_keeps rfl)

/-- **A write that succeeds** leaves its content. -/
theorem ensure_ok (h : (ensure file value attempt).2 = .ok) :
    read (ensure file value attempt).1 = some value := by
  cases attempt with
  | failed => cases h
  | unsynced =>
    cases file with
    | none => cases h
    | some w =>
      unfold ensure at h
      dsimp only at h
      split at h
      · cases h
      · cases h
  | synced =>
    cases file with
    | none => rfl
    | some w =>
      unfold ensure at h ⊢
      dsimp only at h ⊢
      split
      · rename_i hsame
        exact congrArg some hsame
      · rename_i hother
        rw [if_neg hother] at h
        cases h

end Ensure

end WriteOnce
