import Mathlib

/-!
# Numbers of a fixed width

A number below `b ^ n` and its `n` digits in base `b`, the highest first. The two determine each
other, so a text in one base is turned into a text in another and back.
-/

namespace FixedDigits

variable {b : Nat}

/-- The number of some digits, the highest first. -/
def value (b : Nat) (ds : List Nat) : Nat := ds.foldl (fun v d => v * b + d) 0

/-- The `n` lowest digits of a number, the highest first. -/
def digits (b : Nat) : Nat → Nat → List Nat
  | 0, _ => []
  | n + 1, v => digits b n (v / b) ++ [v % b]

@[simp] theorem length_digits (n v : Nat) : (digits b n v).length = n := by
  induction n generalizing v with
  | zero => rfl
  | succ n ih => rw [digits, List.length_append, ih]; rfl

theorem digits_lt (hb : 0 < b) {n v d : Nat} (hd : d ∈ digits b n v) : d < b := by
  induction n generalizing v with
  | zero => cases hd
  | succ n ih =>
    rw [digits, List.mem_append, List.mem_singleton] at hd
    obtain hd | rfl := hd
    · exact ih hd
    · exact Nat.mod_lt v hb

@[simp] theorem value_concat (ds : List Nat) (d : Nat) :
    value b (ds ++ [d]) = value b ds * b + d := by
  unfold value
  rw [List.foldl_append]
  rfl

theorem value_lt (ds : List Nat) (h : ∀ d ∈ ds, d < b) : value b ds < b ^ ds.length := by
  induction ds using List.reverseRecOn with
  | nil => exact Nat.one_pos
  | append_singleton ds d ih =>
    have hds := ih fun x hx => h x (List.mem_append_left _ hx)
    have hd := h d (List.mem_append_right _ (List.mem_singleton_self d))
    rw [value_concat, List.length_append, List.length_singleton, Nat.pow_succ]
    calc value b ds * b + d < value b ds * b + b := Nat.add_lt_add_left hd _
      _ = (value b ds + 1) * b := (Nat.succ_mul _ _).symm
      _ ≤ b ^ ds.length * b := Nat.mul_le_mul_right b hds

/-- **The digits of the number of some digits** are those digits. -/
theorem digits_value (ds : List Nat) (h : ∀ d ∈ ds, d < b) :
    digits b ds.length (value b ds) = ds := by
  induction ds using List.reverseRecOn with
  | nil => rfl
  | append_singleton ds d ih =>
    have hd := h d (List.mem_append_right _ (List.mem_singleton_self d))
    have hb : 0 < b := Nat.lt_of_le_of_lt (Nat.zero_le d) hd
    have hdiv : (value b ds * b + d) / b = value b ds := by
      rw [Nat.mul_comm, Nat.mul_add_div hb, Nat.div_eq_of_lt hd, Nat.add_zero]
    have hmod : (value b ds * b + d) % b = d := by
      rw [Nat.mul_comm, Nat.mul_add_mod, Nat.mod_eq_of_lt hd]
    rw [List.length_append, List.length_singleton, digits, value_concat, hdiv, hmod,
      ih fun x hx => h x (List.mem_append_left _ hx)]

/-- **The number of the digits of a number** is the number, if it is not too wide. -/
theorem value_digits {n v : Nat} (h : v < b ^ n) : value b (digits b n v) = v := by
  induction n generalizing v with
  | zero => exact (Nat.lt_one_iff.mp h).symm
  | succ n ih =>
    have hdiv : v / b < b ^ n := Nat.div_lt_of_lt_mul (by rwa [Nat.pow_succ'] at h)
    rw [digits, value_concat, ih hdiv, Nat.mul_comm, Nat.div_add_mod]

end FixedDigits
